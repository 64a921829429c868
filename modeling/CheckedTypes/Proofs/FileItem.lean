import CheckedTypes.SourceFile
import CheckedTypes.Proofs.EmittedType
import CheckedTypes.Proofs.TableLookup

namespace CheckedTypes

/-- What a file holds for a named type: an enumeration, or a declaration with the patterns of its
checks and, where there is something to check, the body of its validator. -/
inductive FileItem where
  | enumeration (ident : String) (values : List String)
  | type (ident declaration : String) (patterns : List String) (checks : Option (List Statement))

namespace FileItem

def ident : FileItem → String
  | enumeration ident _ => ident
  | type ident _ _ _ => ident

/-- An enumeration always has a validator. -/
def hasValidator : FileItem → Bool
  | enumeration _ _ => true
  | type _ _ _ checks => checks.isSome

def patterns : FileItem → List String
  | enumeration _ _ => []
  | type _ _ patterns _ => patterns

/-- The statements of the validator, as far as they come from the type. -/
def checks : FileItem → List Statement
  | enumeration _ _ => []
  | type _ _ _ checks => checks.getD []

end FileItem

/-- The identifiers of the validators in a file. -/
def validatorIdents (items : List FileItem) : List String :=
  (items.filter FileItem.hasValidator).map FileItem.ident

theorem validatorIdents_cons (item : FileItem) (rest : List FileItem) :
    validatorIdents (item :: rest) = validatorIdents [item] ++ validatorIdents rest := by
  rw [validatorIdents, ← List.singleton_append, List.filter_append, List.map_append]
  rfl

namespace SourceDraft

/-- Writes an item. -/
def addItem (target : Target) (draft : SourceDraft) : FileItem → Except GenerateError SourceDraft
  | .enumeration ident values =>
    ((draft.file.addExport ident).addEnum ident values).map fun file => { draft with file }
  | .type ident declaration patterns checks =>
    let file := (draft.file.addExport ident).addPatterns draft.patterns patterns
    .ok { file := file.addType ident declaration (checks.map (validatorText target))
          patterns := draft.patterns + patterns.length }

def addItems (target : Target) (draft : SourceDraft) :
    List FileItem → Except GenerateError SourceDraft
  | [] => .ok draft
  | item :: rest =>
    match draft.addItem target item with
    | .error fault => .error fault
    | .ok draft => draft.addItems target rest

end SourceDraft

namespace EmissionContext

/-- The item of a type that is emitted without an error; `next` is the number of its first
pattern. -/
inductive EmitsItem (context : EmissionContext) (next : Nat) (entry : TypeEntry) : FileItem → Prop
  | enumeration {values} : entry.node = .enumeration values →
      EmitsItem context next entry (.enumeration entry.ident values)
  | type {ignorable checks patterns} : entry.node.isEnumeration = false →
      Emits { context with current := entry.name } FileParts.root false next entry.node ignorable
        checks patterns →
      EmitsItem context next entry (.type entry.ident
        (context.declaration entry (emit { context with current := entry.name } next entry.node))
        patterns (if ignorable then none else some checks))

inductive EmitsItems (context : EmissionContext) : Nat → List TypeEntry → List FileItem → Prop
  | nil {next} : EmitsItems context next [] []
  | cons {next entry rest item items} : context.EmitsItem next entry item →
      EmitsItems context (next + item.patterns.length) rest items →
      EmitsItems context next (entry :: rest) (item :: items)

section

variable {context : EmissionContext} {next : Nat} {entries : List TypeEntry}
  {items : List FileItem}

theorem EmitsItem.ident {entry : TypeEntry} {item : FileItem}
    (h : context.EmitsItem next entry item) : item.ident = entry.ident := by
  cases h <;> rfl

theorem EmitsItems.map_ident (h : context.EmitsItems next entries items) :
    items.map FileItem.ident = entries.map TypeEntry.ident := by
  induction h with
  | nil => rfl
  | cons first _ ih => rw [List.map_cons, List.map_cons, first.ident, ih]

theorem EmitsItems.exists_item (h : context.EmitsItems next entries items) {entry : TypeEntry}
    (hm : entry ∈ entries) : ∃ start, ∃ item ∈ items, context.EmitsItem start entry item := by
  induction h with
  | nil => cases hm
  | cons first _ ih =>
    rcases List.mem_cons.mp hm with rfl | hm
    · exact ⟨_, _, List.mem_cons_self, first⟩
    · obtain ⟨start, item, hi, he⟩ := ih hm
      exact ⟨start, item, List.mem_cons_of_mem _ hi, he⟩

theorem EmitsItems.exists_entry (h : context.EmitsItems next entries items) {item : FileItem}
    (hm : item ∈ items) : ∃ start, ∃ entry ∈ entries, context.EmitsItem start entry item := by
  induction h with
  | nil => cases hm
  | cons first _ ih =>
    rcases List.mem_cons.mp hm with rfl | hm
    · exact ⟨_, _, List.mem_cons_self, first⟩
    · obtain ⟨start, entry, he, hi⟩ := ih hm
      exact ⟨start, entry, List.mem_cons_of_mem _ he, hi⟩

end

theorem emitsItem_of_addEntry {context : EmissionContext} {draft result : SourceDraft}
    {entry : TypeEntry} (h : draft.addEntry context entry = .ok result) :
    ∃ item, context.EmitsItem draft.patterns entry item ∧
      draft.addItem context.target item = .ok result ∧
      result.patterns = draft.patterns + item.patterns.length := by
  unfold SourceDraft.addEntry at h
  dsimp only at h
  split at h
  next values hn =>
    refine ⟨_, .enumeration hn, h, ?_⟩
    obtain ⟨file, -, rfl⟩ := exists_of_map_eq_ok h
    rfl
  next node hn =>
    generalize hc : ({ context with current := entry.name } : EmissionContext) = current at h
    obtain ⟨⟨ignorable, checks⟩, ho, rfl⟩ := exists_of_map_eq_ok h
    subst hc
    refine ⟨_, .type ?_ ⟨ho, rfl⟩, ?_, rfl⟩
    · cases hv : entry.node with
      | enumeration values => exact absurd hv (hn values)
      | _ => rfl
    · cases ignorable <;> rfl

theorem emitsItems_of_addEntries {context : EmissionContext} {draft result : SourceDraft}
    {entries : List TypeEntry} (h : draft.addEntries context entries = .ok result) :
    ∃ items, context.EmitsItems draft.patterns entries items ∧
      draft.addItems context.target items = .ok result := by
  induction entries generalizing draft with
  | nil => exact ⟨[], .nil, h⟩
  | cons entry rest ih =>
    rw [SourceDraft.addEntries] at h
    split at h
    next => cases h
    next between hb =>
      obtain ⟨item, he, ha, hp⟩ := emitsItem_of_addEntry hb
      obtain ⟨items, hi, hr⟩ := ih h
      refine ⟨item :: items, .cons he (hp ▸ hi), ?_⟩
      rw [SourceDraft.addItems, ha]
      exact hr

/-- A type can be emitted, whatever patterns come before. -/
def Emittable (context : EmissionContext) (entry : TypeEntry) : Prop :=
  match entry.node with
  | .enumeration values => ∃ members, FileParts.enumMembers entry.ident [] values = .ok members
  | node => ∀ next, ∃ outcome,
      (emit { context with current := entry.name } next node).outcome = .ok outcome

theorem exists_addEntry {context : EmissionContext} {entry : TypeEntry}
    (h : context.Emittable entry) (draft : SourceDraft) :
    ∃ result, draft.addEntry context entry = .ok result := by
  unfold Emittable at h
  unfold SourceDraft.addEntry FileParts.addEnum
  dsimp only
  split
  next values hn =>
    rw [hn] at h
    obtain ⟨members, hv⟩ := h
    exact ⟨_, by rw [hv]; rfl⟩
  next node hn =>
    split at h
    next values hv => exact absurd hv (hn values)
    next =>
      obtain ⟨outcome, ho⟩ := h draft.patterns
      exact ⟨_, by rw [ho]; rfl⟩

theorem exists_addEntries {context : EmissionContext} {entries : List TypeEntry}
    (h : ∀ entry ∈ entries, context.Emittable entry) (draft : SourceDraft) :
    ∃ result, draft.addEntries context entries = .ok result := by
  induction entries generalizing draft with
  | nil => exact ⟨draft, rfl⟩
  | cons entry rest ih =>
    obtain ⟨between, hb⟩ := exists_addEntry (h entry List.mem_cons_self) draft
    obtain ⟨result, hr⟩ := ih (fun other hm => h other (List.mem_cons_of_mem _ hm)) between
    exact ⟨result, by rw [SourceDraft.addEntries, hb]; exact hr⟩

end EmissionContext

/-- A table whose types can all be emitted is rendered. -/
theorem TypeTable.exists_render {table : TypeTable} {target : Target} {validated : List String}
    (hv : table.validatedTypes target.dispatches = .ok validated)
    (h : ∀ entry ∈ table.entries,
      EmissionContext.Emittable { target, table, validated, current := "" } entry)
    (modulePath : String) : ∃ text, table.render target modulePath = .ok text := by
  have sorted : ∀ entry ∈ table.sortedEntries,
      EmissionContext.Emittable { target, table, validated, current := "" } entry :=
    fun entry hm => h entry (mem_sortedEntries.mp hm)
  obtain ⟨draft, hd⟩ := EmissionContext.exists_addEntries sorted { file := .empty target }
  refine ⟨draft.file.assemble modulePath, ?_⟩
  simp only [TypeTable.render, EmissionContext.ofTable, hv, Except.map, hd]

/-- A file is made of these items, and the text is what they are written as. -/
structure TypeTable.Renders (table : TypeTable) (target : Target) (modulePath text : String)
    (validated : List String) (items : List FileItem) (file : FileParts) : Prop where
  validated_eq : table.validatedTypes target.dispatches = .ok validated
  emits : EmissionContext.EmitsItems { target, table, validated, current := "" } 0
    table.sortedEntries items
  written : ∃ count, SourceDraft.addItems target { file := .empty target } items =
    .ok { file, patterns := count }
  text_eq : text = file.assemble modulePath

theorem TypeTable.renders_of_render {table : TypeTable} {target : Target}
    {modulePath text : String} (h : table.render target modulePath = .ok text) :
    ∃ validated items file, table.Renders target modulePath text validated items file := by
  unfold TypeTable.render at h
  split at h
  next => cases h
  next context hc =>
    obtain ⟨validated, hv, rfl⟩ := exists_of_map_eq_ok hc
    obtain ⟨draft, hd, rfl⟩ := exists_of_map_eq_ok h
    obtain ⟨items, he, ha⟩ := EmissionContext.emitsItems_of_addEntries hd
    exact ⟨validated, items, draft.file, hv, he, ⟨draft.patterns, ha⟩, rfl⟩

end CheckedTypes
