import CheckedTypes.Proofs.SortedType
import CheckedTypes.Proofs.FlattenedTable

namespace CheckedTypes

/-- A named type with its properties in order. -/
def TypeEntry.canonical (entry : TypeEntry) : TypeEntry :=
  { entry with node := entry.node.sorted }

theorem TypeEntry.canonical_eq_iff {entry twin : TypeEntry} :
    twin.canonical = entry.canonical ↔ twin.name = entry.name ∧ twin.path = entry.path ∧
      twin.node.sorted = entry.node.sorted ∧ twin.ident = entry.ident := by
  unfold TypeEntry.canonical
  rw [TypeEntry.mk.injEq]

theorem TypeNode.isEnumeration_sorted (node : TypeNode) :
    node.sorted.isEnumeration = node.isEnumeration := by
  cases node with
  | array items => cases items <;> rfl
  | _ => rfl

theorem except_map_map {ε α β γ : Type} (f : α → β) (g : β → γ) (result : Except ε α) :
    (result.map f).map g = result.map (g ∘ f) := by
  cases result <;> rfl

/-- What is found in two places and agrees up to a function is there in both or in neither. -/
theorem option_map_eq_map_cases {α β : Type} {f : α → β} {left right : Option α}
    (h : left.map f = right.map f) :
    left = none ∧ right = none ∨ ∃ a b, left = some a ∧ right = some b ∧ f a = f b := by
  cases left with
  | none => exact .inl ⟨rfl, Option.map_eq_none_iff.mp h.symm⟩
  | some a =>
    obtain ⟨b, hb, same⟩ := Option.map_eq_some_iff.mp h.symm
    exact .inr ⟨a, b, rfl, hb, same.symm⟩

namespace TypeTable

/-- References lead to types of the same identifiers, or fail alike. -/
def AgreesOnReferences (table other : TypeTable) : Prop :=
  ∀ pointer, (other.resolve pointer).map TypeEntry.ident =
    (table.resolve pointer).map TypeEntry.ident

/-- The same types in another order, also of their properties. -/
structure Alike (table other : TypeTable) : Prop where
  root_eq : other.root = table.root
  entries_perm : (other.entries.map TypeEntry.canonical).Perm
    (table.entries.map TypeEntry.canonical)

variable {table other : TypeTable}

/-- A lookup of the type with some key finds the same in both tables, if the key does not depend on
the order of properties. -/
theorem Alike.map_canonical_eq (h : table.Alike other) {find : TypeTable → Option TypeEntry}
    {Key : TypeEntry → Prop}
    (finds : ∀ {table entry}, find table = some entry ↔ entry ∈ table.entries ∧ Key entry)
    (kept : ∀ entry : TypeEntry, Key entry.canonical ↔ Key entry) :
    (find other).map TypeEntry.canonical = (find table).map TypeEntry.canonical := by
  have found (table : TypeTable) (entry : TypeEntry) :
      (find table).map TypeEntry.canonical = some entry ↔
        entry ∈ table.entries.map TypeEntry.canonical ∧ Key entry := by
    rw [Option.map_eq_some_iff, List.mem_map]
    constructor
    · rintro ⟨found, hf, rfl⟩
      obtain ⟨hm, key⟩ := finds.mp hf
      exact ⟨⟨found, hm, rfl⟩, (kept found).mpr key⟩
    · rintro ⟨⟨found, hm, rfl⟩, key⟩
      exact ⟨found, finds.mpr ⟨hm, (kept found).mp key⟩, rfl⟩
  refine Option.ext fun entry => ?_
  rw [found, found, h.entries_perm.mem_iff]

theorem Alike.get? (h : table.Alike other) (name : String) :
    (other.get? name).map TypeEntry.canonical = (table.get? name).map TypeEntry.canonical :=
  h.map_canonical_eq get?_eq_some_iff fun _ => .rfl

theorem Alike.resolve (h : table.Alike other) (pointer : String) :
    (other.resolve pointer).map TypeEntry.canonical =
      (table.resolve pointer).map TypeEntry.canonical := by
  unfold TypeTable.resolve
  split
  next tokens _ =>
    split
    next => rfl
    next path _ =>
      have found (name : Option String) : (name.bind other.get?).map TypeEntry.canonical =
          (name.bind table.get?).map TypeEntry.canonical := by
        cases name with
        | none => rfl
        | some name => exact h.get? name
      have found := found (if tokens.isEmpty then table.root else some (definitionName path))
      rw [h.root_eq]
      dsimp only
      obtain ⟨ha, hb⟩ | ⟨twin, entry, ha, hb, same⟩ := option_map_eq_map_cases found
      · rw [ha, hb]
      · rw [ha, hb]
        exact congrArg Except.ok same
  next => rfl

theorem Alike.agreesOnReferences (h : table.Alike other) : table.AgreesOnReferences other := by
  intro pointer
  have same := congrArg (Except.map TypeEntry.ident) (h.resolve pointer)
  rwa [except_map_map, except_map_map] at same

theorem sortedEntries_canonical (table : TypeTable) :
    table.sortedEntries.map TypeEntry.canonical =
      (table.entries.map TypeEntry.canonical).mergeSort
        (fun a b => !decide (b.name < a.name)) :=
  List.map_mergeSort fun _ _ _ _ => rfl

theorem Alike.sortedEntries (h : table.Alike other) :
    List.Forall₂ (fun entry twin => twin.canonical = entry.canonical)
      table.sortedEntries other.sortedEntries := by
  have names : ((other.entries.map TypeEntry.canonical).map TypeEntry.name).Nodup := by
    rw [List.map_map]
    exact other.nodup_name
  have same : other.sortedEntries.map TypeEntry.canonical =
      table.sortedEntries.map TypeEntry.canonical := by
    rw [sortedEntries_canonical, sortedEntries_canonical]
    exact mergeSort_eq_of_perm h.entries_perm names
  exact (map_eq_map_iff_forall₂.mp same).flip

end TypeTable

section

variable {table other : TypeTable} {explicit : Bool}

theorem TypeNode.isConstrained_congr {node : TypeNode} {validated : List String}
    (h : table.AgreesOnReferences other) :
    node.isConstrained other explicit validated = node.isConstrained table explicit validated := by
  induction node with
  | null | boolean | integer | number | string | bareArray | enumeration => rfl
  | array items additionalItems constraints ih =>
    rw [isConstrained, isConstrained]
    simp only [ih]
  | object properties required ih =>
    have any : isAnyConstrained other explicit validated properties =
        isAnyConstrained table explicit validated properties := by
      induction properties with
      | nil => rfl
      | cons property rest rec =>
        obtain ⟨name, node⟩ := property
        rw [isAnyConstrained, isAnyConstrained, ih name node List.mem_cons_self,
          rec fun other part hm => ih other part (List.mem_cons_of_mem _ hm)]
    rw [isConstrained, isConstrained, any]
  | reference pointer =>
    have same := congrArg (Except.map validated.contains) (h pointer)
    rw [except_map_map, except_map_map] at same
    rw [isConstrained, isConstrained]
    split
    next => exact same
    next => rfl

/-- Every reference of a type in the list leads to a type. -/
def TypeTable.Leads (table : TypeTable) (order : List TypeEntry) : Prop :=
  ∀ entry ∈ order, ∀ pointer, (TypeNode.reference pointer).Within entry.node.sorted →
    ∃ found, table.resolve pointer = .ok found

theorem TypeTable.WellFormed.leads (h : table.WellFormed) :
    table.Leads table.sortedEntries := by
  intro entry hm pointer hw
  exact h.supported (TypeTable.mem_sortedEntries.mp hm) (TypeNode.reference_within_of_sorted hw) rfl

theorem isConstrained_of_canonical {entry twin : TypeEntry} {validated : List String}
    (h : table.AgreesOnReferences other) (same : twin.canonical = entry.canonical)
    (lead : ∀ pointer, (TypeNode.reference pointer).Within entry.node.sorted →
      ∃ found, table.resolve pointer = .ok found) :
    twin.node.isConstrained other explicit validated =
      entry.node.isConstrained table explicit validated := by
  obtain ⟨-, -, node, -⟩ := TypeEntry.canonical_eq_iff.mp same
  rw [TypeNode.isConstrained_congr h, ← TypeNode.isConstrained_sorted lead, ← node,
    TypeNode.isConstrained_sorted (node ▸ lead)]

end

namespace TypeTable

variable {table other : TypeTable} {explicit : Bool} {order others : List TypeEntry}

theorem addConstrained_congr {validated : List String} (h : table.AgreesOnReferences other)
    (same : List.Forall₂ (fun entry twin => twin.canonical = entry.canonical) order others)
    (leads : table.Leads order) :
    other.addConstrained explicit validated others =
      table.addConstrained explicit validated order := by
  induction same generalizing validated with
  | nil => rfl
  | @cons entry twin rest twins first _ ih =>
    obtain ⟨lead, leads⟩ := List.forall_mem_cons.mp leads
    obtain ⟨-, -, -, ident⟩ := TypeEntry.canonical_eq_iff.mp first
    have others (validated : List String) : other.addConstrained explicit validated twins =
        table.addConstrained explicit validated rest := ih leads
    rw [addConstrained, addConstrained, ident, isConstrained_of_canonical h first lead, others,
      others]

theorem enumerationIdents_congr
    (same : List.Forall₂ (fun entry twin => twin.canonical = entry.canonical) order others) :
    enumerationIdents others = enumerationIdents order := by
  induction same with
  | nil => rfl
  | @cons entry twin rest twins first _ ih =>
    obtain ⟨-, -, node, ident⟩ := TypeEntry.canonical_eq_iff.mp first
    have kind : twin.node.isEnumeration = entry.node.isEnumeration := by
      rw [← TypeNode.isEnumeration_sorted, node, TypeNode.isEnumeration_sorted]
    unfold enumerationIdents at ih ⊢
    rw [List.filter_cons, List.filter_cons, kind]
    split
    next => rw [List.map_cons, List.map_cons, ident, ih]
    next => exact ih

/-- The types with a validator are found in the same order. -/
theorem Alike.validatedTypes (h : table.Alike other) (wf : table.WellFormed) (explicit : Bool) :
    other.validatedTypes explicit = table.validatedTypes explicit := by
  have twins := h.sortedEntries
  have rounds (rounds : Nat) (validated : List String) :
      other.closeConstrained explicit rounds validated =
        table.closeConstrained explicit rounds validated := by
    induction rounds generalizing validated with
    | zero => rfl
    | succ rounds ih =>
      rw [closeConstrained, closeConstrained,
        addConstrained_congr h.agreesOnReferences twins wf.leads]
      simp only [ih]
  have size : other.size = table.size := by
    have count := h.entries_perm.length_eq
    rwa [List.length_map, List.length_map] at count
  have enumerations := enumerationIdents_congr twins
  unfold TypeTable.validatedTypes
  rw [rounds, size]
  exact congrArg _ enumerations

end TypeTable

namespace EmissionContext

/-- What a type adds to the file depends on the table only through the identifiers that references
lead to. -/
theorem emission_congr (context : EmissionContext) {other : TypeTable}
    (h : context.table.AgreesOnReferences other) (cursor : Cursor) (optional : Bool) (next : Nat)
    (node : TypeNode) :
    EmissionContext.emission { context with table := other } cursor optional next node =
      context.emission cursor optional next node := by
  induction node generalizing cursor optional next with
  | null | boolean | integer | number | string | bareArray | enumeration => rfl
  | array items additionalItems constraints ih =>
    rw [emission, emission]
    simp only [ih]
    rfl
  | object properties required ih =>
    have members (required : List String) : EmissionContext.memberEmissions
        { context with table := other } cursor required next properties =
          context.memberEmissions cursor required next properties := by
      induction properties generalizing next with
      | nil => rfl
      | cons property rest rec =>
        obtain ⟨name, node⟩ := property
        rw [memberEmissions, memberEmissions, ih name node List.mem_cons_self,
          rec fun other part hm => ih other part (List.mem_cons_of_mem _ hm)]
    rw [emission, emission]
    simp only [members]
    rfl
  | reference pointer =>
    have same := h pointer
    rw [emission, emission]
    dsimp only
    cases ha : other.resolve pointer <;> cases hb : context.table.resolve pointer <;>
      simp_all [Except.map]

theorem declaration_congr (context : EmissionContext) {entry twin : TypeEntry}
    (same : twin.canonical = entry.canonical) (other : TypeTable) (emission : Emission) :
    EmissionContext.declaration { context with table := other } twin emission =
      context.declaration entry emission := by
  obtain ⟨-, -, node, ident⟩ := TypeEntry.canonical_eq_iff.mp same
  have start (ident : String) (node : TypeNode) :
      context.target.declarationStart ident node.sorted =
        context.target.declarationStart ident node := by
    cases context.target <;> cases node with
    | array items => cases items <;> rfl
    | _ => rfl
  have same : context.target.declarationStart twin.ident twin.node =
      context.target.declarationStart entry.ident entry.node := by
    rw [← start, node, ident, start]
  unfold EmissionContext.declaration
  simp only [same]

theorem addEntry_congr (context : EmissionContext) {other : TypeTable} {entry twin : TypeEntry}
    (h : context.table.AgreesOnReferences other) (same : twin.canonical = entry.canonical)
    (draft : SourceDraft) :
    draft.addEntry { context with table := other } twin = draft.addEntry context entry := by
  obtain ⟨name, -, node, ident⟩ := TypeEntry.canonical_eq_iff.mp same
  unfold SourceDraft.addEntry
  rw [ident]
  split
  next values hn =>
    have hn : entry.node = .enumeration values := by
      rwa [← TypeNode.sorted_eq_enumeration, ← node, TypeNode.sorted_eq_enumeration]
    rw [hn]
  next hn =>
    split
    next values he =>
      have twin : twin.node = .enumeration values := by
        rwa [← TypeNode.sorted_eq_enumeration, node, TypeNode.sorted_eq_enumeration]
      exact absurd twin (hn values)
    next =>
      let current := { context with current := entry.name }
      have emitted : EmissionContext.emit { current with table := other } draft.patterns
          twin.node = current.emit draft.patterns entry.node := by
        unfold emit
        rw [node]
        exact emission_congr current h _ _ _ _
      have declared (emission : Emission) := declaration_congr current same other emission
      rw [name]
      dsimp only
      rw [emitted, ← ident, declared]

end EmissionContext

namespace TypeTable

variable {table other : TypeTable}

/-- A table is rendered the same in whatever order it holds its types and these their properties. -/
theorem Alike.render (h : table.Alike other) (wf : table.WellFormed) (target : Target)
    (modulePath : String) : other.render target modulePath = table.render target modulePath := by
  unfold TypeTable.render EmissionContext.ofTable
  rw [h.validatedTypes wf]
  cases table.validatedTypes target.dispatches with
  | error fault => rfl
  | ok validated =>
    have entries (order others : List TypeEntry)
        (same : List.Forall₂ (fun entry twin => twin.canonical = entry.canonical) order others)
        (draft : SourceDraft) :
        draft.addEntries ⟨target, other, validated, ""⟩ others =
          draft.addEntries ⟨target, table, validated, ""⟩ order := by
      induction same generalizing draft with
      | nil => rfl
      | @cons entry twin rest twins first _ ih =>
        rw [SourceDraft.addEntries, SourceDraft.addEntries]
        have here := EmissionContext.addEntry_congr ⟨target, table, validated, ""⟩
          h.agreesOnReferences first draft
        rw [here]
        split
        next => rfl
        next draft _ => exact ih draft
    exact congrArg (Except.map fun draft => draft.file.assemble modulePath)
      (entries _ _ h.sortedEntries _)

end TypeTable

end CheckedTypes
