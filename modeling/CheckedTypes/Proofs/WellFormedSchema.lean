import CheckedTypes.Proofs.DeclarationBlock
import CheckedTypes.Proofs.DeclaredType
import CheckedTypes.Proofs.ValidatedReach
import CheckedTypes.Proofs.WellFormedType

namespace CheckedTypes

/-- What a table needs so that its types can be generated. -/
structure TypeTable.WellFormed (table : TypeTable) : Prop where
  enumerations : ∀ entry ∈ table.entries, ∀ values, entry.node = .enumeration values →
    (values.map renderName).Nodup
  types : ∀ entry ∈ table.entries, entry.node.isEnumeration = false →
    entry.node.WellFormed table

/-- The members of an enumeration differ as they are rendered, also from those seen before. -/
theorem exists_enumMembers_iff {ident : String} {seen values : List String} :
    (∃ members, FileParts.enumMembers ident seen values = .ok members) ↔
      (values.map renderName).Nodup ∧ ∀ value ∈ values, renderName value ∉ seen := by
  induction values generalizing seen with
  | nil => simp [FileParts.enumMembers]
  | cons value rest ih =>
    have step := @nodup_apart_cons _ (renderName value) (rest.map renderName) seen
    rw [← List.map_cons, List.forall_mem_map, List.forall_mem_map] at step
    rw [FileParts.enumMembers, step]
    split
    next taken =>
      have taken : renderName value ∈ seen := by simpa using taken
      simp [taken]
    next fresh =>
      have fresh : renderName value ∉ seen := by simpa using fresh
      have others : (∃ members, (FileParts.enumMembers ident (renderName value :: seen) rest).map
          ((renderName value, value) :: ·) = .ok members) ↔ ∃ members,
            FileParts.enumMembers ident (renderName value :: seen) rest = .ok members := by
        constructor
        · rintro ⟨members, hm⟩
          obtain ⟨others, ho, -⟩ := exists_of_map_eq_ok hm
          exact ⟨others, ho⟩
        · rintro ⟨members, hm⟩
          exact ⟨_, by rw [hm]; rfl⟩
      rw [others, ih]
      simp only [fresh, not_false_iff, true_and]

theorem exists_addItem_of_mem {target : Target} {draft result : SourceDraft}
    {items : List FileItem} (h : draft.addItems target items = .ok result) {item : FileItem}
    (hm : item ∈ items) :
    ∃ before after : SourceDraft, before.addItem target item = .ok after := by
  induction items generalizing draft with
  | nil => cases hm
  | cons first rest ih =>
    rw [SourceDraft.addItems] at h
    split at h
    next => cases h
    next between hb =>
      rcases List.mem_cons.mp hm with rfl | hm
      · exact ⟨draft, between, hb⟩
      · exact ih h hm

namespace TypeTable

variable {table : TypeTable} {target : Target} {modulePath text : String}
  {validated : List String} {items : List FileItem} {file : FileParts}

theorem WellFormed.supported (h : table.WellFormed) {entry : TypeEntry}
    (hm : entry ∈ table.entries) {part : TypeNode} (hw : part.Within entry.node)
    (kind : part.isEnumeration = false) : part.Supported table := by
  cases he : entry.node.isEnumeration with
  | false => exact h.types entry hm he part hw
  | true =>
    cases hn : entry.node with
    | enumeration values =>
      rw [hn] at hw
      cases hw
      simp [TypeNode.isEnumeration] at kind
    | _ => simp [hn, TypeNode.isEnumeration] at he

/-- The search for the types with a validator does not fail where all references lead to a type. -/
theorem WellFormed.exists_validatedTypes (h : table.WellFormed) (explicit : Bool) :
    ∃ validated, table.validatedTypes explicit = .ok validated :=
  (table.closes_validatedTypes explicit).exists_ok fun _ hm =>
    TypeNode.isConstrained_total fun _ _ hw => h.supported (mem_sortedEntries.mp hm) hw rfl

/-- What has been written was well formed. -/
theorem Renders.wellFormed (h : table.Renders target modulePath text validated items file) :
    table.WellFormed := by
  obtain ⟨-, emits, ⟨count, written⟩, -⟩ := h
  constructor
  · intro entry hm values hn
    obtain ⟨start, item, hi, he⟩ := emits.exists_item (mem_sortedEntries.mpr hm)
    cases he with
    | @enumeration others ho =>
      cases hn.symm.trans ho
      obtain ⟨before, after, ha⟩ := exists_addItem_of_mem written hi
      obtain ⟨_, hf, _⟩ := exists_of_map_eq_ok ha
      obtain ⟨members, hv, _⟩ := exists_of_map_eq_ok hf
      exact (exists_enumMembers_iff.mp ⟨members, hv⟩).1
    | type kind => simp [hn, TypeNode.isEnumeration] at kind
  · intro entry hm kind
    obtain ⟨start, item, -, he⟩ := emits.exists_item (mem_sortedEntries.mpr hm)
    cases he with
    | enumeration ho => simp [ho, TypeNode.isEnumeration] at kind
    | type _ he => exact he.wellFormed

theorem WellFormed.emittable (h : table.WellFormed) {context : EmissionContext}
    (ht : context.table = table) {entry : TypeEntry} (hm : entry ∈ table.entries) :
    context.Emittable entry := by
  subst ht
  unfold EmissionContext.Emittable
  split
  next values hn => exact exists_enumMembers_iff.mpr ⟨h.enumerations entry hm values hn, by simp⟩
  next node hn =>
    have kind : entry.node.isEnumeration = false := by
      cases hv : entry.node with
      | enumeration values => exact absurd hv (hn values)
      | _ => rfl
    intro next
    let current := { context with current := entry.name }
    have wf : entry.node.WellFormed current.table := h.types entry hm kind
    exact EmissionContext.exists_emission wf FileParts.root false next

/-- Exactly the well-formed tables can be rendered, whatever the target. -/
theorem exists_render_iff :
    (∃ text, table.render target modulePath = .ok text) ↔ table.WellFormed := by
  constructor
  · rintro ⟨text, h⟩
    obtain ⟨validated, items, file, renders⟩ := renders_of_render h
    exact renders.wellFormed
  · intro h
    obtain ⟨validated, hv⟩ := h.exists_validatedTypes target.dispatches
    exact exists_render hv (fun entry hm => h.emittable rfl hm) modulePath

end TypeTable

/-- The text that declares a type. -/
def DeclaredType.text (type : DeclaredType) (target : Target) (ident : String) (node : TypeNode) :
    String :=
  let w : CodeWriter := { tab := target.tab }
  let w := (w.write (target.declarationStart ident node)).putAll (type.pieces target)
  (w.write target.declarationEnd).newline.text

/-- The declarations of a file are those of the types of a table, one after the other, and they
refer to nothing else. -/
structure TypeTable.Declared (table : TypeTable) (target : Target) (text : String)
    (items : List FileItem) : Prop where
  idents : items.map FileItem.ident = table.sortedEntries.map TypeEntry.ident
  blocks : ∃ before blocks after,
    List.Forall₂ (fun item block => item.declared target <+: block) items blocks ∧
      text.toList = before ++ joinLines (textLines (joinBlocks blocks)) ++ after
  types : ∀ ident declaration patterns checks,
    FileItem.type ident declaration patterns checks ∈ items → ∃ entry ∈ table.entries, ∃ type,
      entry.ident = ident ∧ entry.node.Declares table false type ∧
        declaration = type.text target ident entry.node ∧
          ∀ reference ∈ type.references, (∃ other ∈ table.entries, other.ident = reference) ∧
            (items.map FileItem.ident).count reference = 1

namespace TypeTable

variable {table : TypeTable} {target : Target} {modulePath text : String}
  {validated : List String} {items : List FileItem} {file : FileParts}

theorem Renders.declared (h : table.Renders target modulePath text validated items file) :
    table.Declared target text items := by
  obtain ⟨-, emits, ⟨count, written⟩, rfl⟩ := h
  have idents := emits.map_ident
  refine ⟨idents, ?_, fun ident declaration patterns checks hi => ?_⟩
  · have same : (FileParts.empty target).target = target := rfl
    obtain ⟨-, blocks, begins, shown⟩ := SourceDraft.addItems_blocks same ⟨rfl, rfl⟩ written
    obtain ⟨before, after, whole⟩ := file.assemble_declarations modulePath
    exact ⟨before, blocks, after, begins, by rw [whole, shown]; rfl⟩
  · obtain ⟨start, entry, hm, he⟩ := emits.exists_entry hi
    cases he with
    | type kind he =>
      have hm := mem_sortedEntries.mp hm
      obtain ⟨type, declares, spelled⟩ := EmissionContext.exists_declaredType he.outcome
      refine ⟨entry, hm, type, rfl, declares, ?_, fun reference hr => ?_⟩
      · unfold EmissionContext.declaration EmissionContext.emit
        rw [spelled]
        rfl
      · obtain ⟨pointer, other, -, resolved, rfl⟩ := declares.exists_reference hr
        have ho := resolve_mem resolved
        refine ⟨⟨other, ho, rfl⟩, ?_⟩
        rw [idents]
        have perm := table.sortedEntries_perm.map TypeEntry.ident
        exact List.count_eq_one_of_mem (perm.nodup_iff.mpr table.nodup_ident)
          (perm.symm.subset (List.mem_map_of_mem ho))

end TypeTable

namespace SchemaDocument

theorem generate_eq_ok_iff {document : SchemaDocument} {target : Target}
    {options : GenerateOptions} {text : String} :
    document.generate target options = .ok text ↔ ∃ table,
      document.toTypeTable options.root = .ok table ∧
        table.render target options.modulePath = .ok text := by
  unfold generate
  split
  next fault hf => simp [hf]
  next table ht => simp [ht]

/-- Whether a document can be generated does not depend on the language: its types have to make a
well-formed table. Every identifier that a declaration then refers to is declared, and only once. -/
theorem generate_succeeds_iff (document : SchemaDocument) (options : GenerateOptions) :
    ((∃ text, document.generate .go options = .ok text) ↔
      ∃ text, document.generate .typescript options = .ok text) ∧
    (∀ target, (∃ text, document.generate target options = .ok text) ↔
      ∃ table, document.toTypeTable options.root = .ok table ∧ table.WellFormed) ∧
    ∀ target text, document.generate target options = .ok text →
      ∃ table validated items file, document.toTypeTable options.root = .ok table ∧
        table.Renders target options.modulePath text validated items file ∧
          table.Declared target text items := by
  have succeeds : ∀ target, (∃ text, document.generate target options = .ok text) ↔
      ∃ table, document.toTypeTable options.root = .ok table ∧ table.WellFormed := by
    intro target
    have rendered (table : TypeTable) :=
      @TypeTable.exists_render_iff table target options.modulePath
    simp only [generate_eq_ok_iff, ← rendered]
    constructor
    · rintro ⟨text, table, ht, hr⟩
      exact ⟨table, ht, text, hr⟩
    · rintro ⟨table, ht, text, hr⟩
      exact ⟨text, table, ht, hr⟩
  refine ⟨(succeeds .go).trans (succeeds .typescript).symm, succeeds, fun target text h => ?_⟩
  obtain ⟨table, ht, hr⟩ := generate_eq_ok_iff.mp h
  obtain ⟨validated, items, file, renders⟩ := TypeTable.renders_of_render hr
  exact ⟨table, validated, items, file, ht, renders, renders.declared⟩

/-- Boxes of a kind inside each other. -/
def boxDocument : SchemaDocument where
  properties := some [
    ("kind", { ref := some "#/$defs/kind" }),
    ("inner", {
      typeNames := some (.one "array")
      items := some (.single { ref := some "#" }) })]
  defs := some [("kind", { enum := some [.string "open", .string "shut"] })]

def boxTable : TypeTable where
  entries := [
    ⟨"box", [], .object [("kind", .reference "#/$defs/kind"),
      ("inner", .array (some (.reference "#")) false {})] none, "Box"⟩,
    ⟨"kind", ["kind"], .enumeration ["open", "shut"], "Kind"⟩]
  root := some "box"
  nodup_name := by decide
  nodup_ident := by decide

theorem boxTable_wellFormed : boxTable.WellFormed := by
  constructor
  · intro entry hm values hn
    fin_cases hm
    · cases hn
    · cases hn
      decide
  · intro entry hm kind
    fin_cases hm
    · refine TypeNode.wellFormed_object.mpr ⟨by decide, fun name node hp => ?_⟩
      fin_cases hp
      · exact TypeNode.wellFormed_reference.mpr ⟨_, by cbv⟩
      · exact TypeNode.wellFormed_array.mpr
          ⟨rfl, TypeNode.wellFormed_reference.mpr ⟨_, by cbv⟩⟩
    · cases kind

theorem generate_succeeds_iff_box :
    boxDocument.toTypeTable (some "box") = .ok boxTable ∧
      ∃ text, boxDocument.generate .typescript { root := some "box" } = .ok text ∧
        ∃ items, boxTable.Declared .typescript text items := by
  have flat : boxDocument.toTypeTable (some "box") = .ok boxTable := by cbv
  obtain ⟨-, succeeds, declared⟩ := generate_succeeds_iff boxDocument { root := some "box" }
  obtain ⟨text, ht⟩ := (succeeds .typescript).mpr ⟨boxTable, flat, boxTable_wellFormed⟩
  obtain ⟨table, validated, items, file, same, -, shown⟩ := declared .typescript text ht
  cases Except.ok.inj (flat.symm.trans same)
  exact ⟨flat, text, ht, items, shown⟩

end SchemaDocument

end CheckedTypes
