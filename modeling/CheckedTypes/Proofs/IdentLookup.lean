import CheckedTypes.InstanceCheck
import CheckedTypes.Proofs.PointerTarget
import CheckedTypes.Proofs.RenderedName

namespace CheckedTypes

namespace TypeTable

variable {table : TypeTable} {entry : TypeEntry}

theorem check_eq {typeName : String} (known : table.lookup? typeName = some entry) (value : Json) :
    table.check typeName value = checkValue table entry.node [] value := by
  rw [check, known]

/-- An identifier that is no other type's name leads to its type. -/
theorem lookup?_ident (hm : entry ∈ table.entries)
    (free : ∀ other ∈ table.entries, other.name = entry.ident → other = entry) :
    table.lookup? entry.ident = some entry := by
  cases hg : table.get? entry.ident with
  | some other =>
    obtain ⟨ho, named⟩ := get?_eq_some_iff.mp hg
    rw [lookup?, hg, free other ho named]
    rfl
  | none =>
    rw [lookup?, hg, getIdent?, find?_of_nodup table.nodup_ident hm]
    rfl

end TypeTable

namespace SchemaDocument

variable {document : SchemaDocument} {root : Option String} {table : TypeTable}
  {entry other : TypeEntry}

/-- The identifier of a type is made of the names on its path, or of the name given to the whole
document. -/
theorem ident_of_mem_entries (h : document.toTypeTable root = .ok table)
    (hm : entry ∈ table.entries) : ∃ names, entry.ident = renderPath names ∧
      ∀ name ∈ names, name ∈ entry.path ∨ entry.path = [] ∧ table.root = some name := by
  by_cases outer : entry.path = []
  · have named := root_of_mem_entries h hm outer
    refine ⟨[entry.name], ?_, ?_⟩
    · rcases (mem_of_toTypeTable h).mp hm with
        ⟨-, name, node, -, -, rfl⟩ | ⟨path, definition, node, defined, -, rfl⟩
      · simp [renderPath, String.join]
      · cases outer
        cases defined
    · rintro name hn
      rw [List.mem_singleton.mp hn]
      exact .inr ⟨outer, named⟩
  · rcases (mem_of_toTypeTable h).mp hm with
      ⟨-, name, node, -, -, rfl⟩ | ⟨path, definition, node, defined, -, rfl⟩
    · exact absurd rfl outer
    · exact ⟨path, rfl, fun name hn => .inl hn⟩

/-- The type of the document or of a definition that stands in no other has its name as its
identifier, but for rendering. -/
theorem ident_eq_renderName (h : document.toTypeTable root = .ok table)
    (hm : entry ∈ table.entries) (shallow : entry.path.length < 2) :
    entry.ident = renderName entry.name := by
  rcases (mem_of_toTypeTable h).mp hm with
    ⟨-, name, node, -, -, rfl⟩ | ⟨path, definition, node, defined, -, rfl⟩
  · rfl
  · cases defined with
    | child => simp [renderPath, definitionName, String.join]
    | inner _ deeper =>
      cases deeper <;> simp at shallow

/-- Only a definition inside another can go by what is the identifier of some other type. -/
theorem nested_of_name_eq_ident (h : document.toTypeTable root = .ok table)
    (hm : entry ∈ table.entries) (ho : other ∈ table.entries) (same : other.name = entry.ident)
    (apart : other ≠ entry) : 2 ≤ other.path.length := by
  by_contra! shallow
  obtain ⟨names, ident, -⟩ := ident_of_mem_entries h hm
  have rendered : IsRendered entry.ident.toList := ident ▸ isRendered_renderPath names
  have idents : other.ident = entry.ident := by
    rw [ident_eq_renderName h ho shallow, same, renderName_of_isRendered rendered]
  exact apart (TypeTable.eq_of_ident ho hm idents)

theorem slash_mem_name_of_nested (h : document.toTypeTable root = .ok table)
    (ho : other ∈ table.entries) (nested : 2 ≤ other.path.length) : '/' ∈ other.name.toList := by
  have inner : other.path ≠ [] := by
    rintro outer
    simp [outer] at nested
  rw [name_of_toTypeTable h ho inner]
  match other.path, nested with
  | _ :: _ :: rest, _ => exact slash_mem_definitionName rest

/-- The name of a type always leads to it. Its identifier does so too unless that is the name of a
definition inside another, which then comes first; the identifier has to have a slash from one of
its names for that. -/
theorem check_ident (h : document.toTypeTable root = .ok table) (hm : entry ∈ table.entries) :
    (∀ value, table.check entry.name value = checkValue table entry.node [] value) ∧
    ((∀ other ∈ table.entries, other.name = entry.ident → other = entry) →
      ∀ value, table.check entry.ident value = table.check entry.name value) ∧
    ∀ other ∈ table.entries, other.name = entry.ident → other ≠ entry →
      (∀ value, table.check entry.ident value = checkValue table other.node [] value) ∧
      2 ≤ other.path.length ∧
      ∃ name, (name ∈ entry.path ∨ entry.path = [] ∧ table.root = some name) ∧
        '/' ∈ name.toList := by
  have byName := TypeTable.check_eq (TypeTable.lookup?_name hm)
  refine ⟨byName, fun free value => ?_, fun other ho same apart => ?_⟩
  · rw [byName, TypeTable.check_eq (TypeTable.lookup?_ident hm free)]
  · have nested := nested_of_name_eq_ident h hm ho same apart
    have known : table.lookup? entry.ident = some other := same ▸ TypeTable.lookup?_name ho
    refine ⟨TypeTable.check_eq known, nested, ?_⟩
    obtain ⟨names, ident, source⟩ := ident_of_mem_entries h hm
    have slash : '/' ∈ (renderPath names).toList :=
      ident ▸ same ▸ slash_mem_name_of_nested h ho nested
    obtain ⟨name, hn, hs⟩ := exists_mem_of_mem_renderPath slash (by decide) (by decide)
    exact ⟨name, source name hn, hs⟩

/-- A definition inside another goes by what is the identifier of a third. -/
def tangledDocument : SchemaDocument where
  definitions := some [
    ("A", {
      properties := some []
      definitions := some [("b", { typeNames := some (.one "string") })] }),
    ("a/b", { typeNames := some (.one "integer") })]

def tangledTable : TypeTable where
  entries := [
    ⟨"A", ["A"], .object [] none, "A"⟩,
    ⟨"A/b", ["A", "b"], .string {}, "AB"⟩,
    ⟨"a/b", ["a/b"], .integer ⟨none, none, none⟩, "A/b"⟩]
  nodup_name := by decide
  nodup_ident := by decide

/-- The identifier of the outermost definition leads to it, and that of the third to the one inside,
which is why they have a slash. -/
theorem check_ident_tangled :
    (∀ value, tangledTable.check "A" value = checkValue tangledTable (.object [] none) [] value) ∧
    (∀ value, tangledTable.check "AB" value = tangledTable.check "A/b" value) ∧
    (∀ value, tangledTable.check "A/b" value = checkValue tangledTable (.string {}) [] value) ∧
    ∃ name ∈ ["a/b"], '/' ∈ name.toList := by
  have flat : tangledDocument.toTypeTable none = .ok tangledTable := by cbv
  have outer : (⟨"A", ["A"], .object [] none, "A"⟩ : TypeEntry) ∈ tangledTable.entries := by
    simp [tangledTable]
  have inside : (⟨"A/b", ["A", "b"], .string {}, "AB"⟩ : TypeEntry) ∈ tangledTable.entries := by
    simp [tangledTable]
  have third : (⟨"a/b", ["a/b"], .integer ⟨none, none, none⟩, "A/b"⟩ : TypeEntry) ∈
      tangledTable.entries := by simp [tangledTable]
  obtain ⟨byName, -, -⟩ := check_ident flat outer
  obtain ⟨-, byIdent, -⟩ := check_ident flat inside
  obtain ⟨-, -, elsewhere⟩ := check_ident flat third
  obtain ⟨other, -, name, source, slash⟩ := elsewhere _ inside rfl (by simp)
  refine ⟨byName, byIdent fun other ho named => ?_, other, name,
    source.resolve_right (by simp), slash⟩
  fin_cases ho
  all_goals exact absurd named (by decide)

/-- A text is no value of the third definition under its name, but it is one under its
identifier. -/
theorem check_ident_apart_tangled : tangledDocument.toTypeTable none = .ok tangledTable ∧
    (⟨"a/b", ["a/b"], .integer ⟨none, none, none⟩, "A/b"⟩ : TypeEntry) ∈ tangledTable.entries ∧
    tangledTable.check "a/b" (.string "x") = .error (.violation (.expected "integer") []) ∧
    tangledTable.check "A/b" (.string "x") = .ok () ∧
    ¬∀ entry ∈ tangledTable.entries, ∀ value,
      tangledTable.check entry.name value = tangledTable.check entry.ident value := by
  have third : (⟨"a/b", ["a/b"], .integer ⟨none, none, none⟩, "A/b"⟩ : TypeEntry) ∈
      tangledTable.entries := by simp [tangledTable]
  have refused : tangledTable.check "a/b" (.string "x") =
      .error (.violation (.expected "integer") []) := by cbv
  have passes : tangledTable.check "A/b" (.string "x") = .ok () := by cbv
  refine ⟨by cbv, third, refused, passes, fun same => ?_⟩
  cases refused.symm.trans ((same _ third _).trans passes)

end SchemaDocument

end CheckedTypes
