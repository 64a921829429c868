import CheckedTypes.Proofs.CheckedAlike
import CheckedTypes.Proofs.Rearrangement
import CheckedTypes.Proofs.ReorderedValue

namespace CheckedTypes

namespace TypeNode

/-- Whether the names of a type are apart does not depend on the order of its properties. -/
theorem namesApart_of_sorted_eq {node twin : TypeNode} (same : twin.sorted = node.sorted)
    (apart : node.NamesApart) : twin.NamesApart := by
  induction node generalizing twin with
  | null | boolean | integer | number | string | enumeration | reference =>
    cases eq_of_sorted_eq rfl same
    exact apart
  | bareArray additionalItems constraints =>
    obtain ⟨others, rfl, inner⟩ := exists_array_of_sorted_eq same
    rw [Option.map_none, Option.map_eq_none_iff] at inner
    rw [inner]
    exact apart
  | array items additionalItems constraints ih =>
    obtain ⟨others, rfl, inner⟩ := exists_array_of_sorted_eq same
    rw [Option.map_some, Option.map_eq_some_iff] at inner
    obtain ⟨twin, rfl, inner⟩ := inner
    intro properties required hw
    cases hw with
    | items hw => exact ih inner apart.items properties required hw
  | object properties required ih =>
    obtain ⟨others, demanded, rfl⟩ := exists_object_of_sorted_eq same
    have names : (others.map Prod.fst).Perm (properties.map Prod.fst) := by
      have sorted := map_fst_sortByName_of_alike same
      have left := (sortByName_perm others).map Prod.fst
      have right := (sortByName_perm properties).map Prod.fst
      exact left.symm.trans (sorted ▸ right)
    intro inner asked hw
    cases hw with
    | here => exact names.nodup_iff.mpr (apart properties required .here)
    | @property name node _ _ hm hw =>
      have nodup : (others.map Prod.fst).Nodup :=
        names.nodup_iff.mpr (apart properties required .here)
      have found := lookup_of_alike same name
      rw [lookup_of_nodup nodup hm, Option.map_some, eq_comm, Option.map_eq_some_iff] at found
      obtain ⟨declared, hd, alike⟩ := found
      have hd := mem_of_lookup hd
      exact ih name declared hd alike.symm (apart.property hd) inner asked hw

end TypeNode

namespace TypeTable

variable {table other : TypeTable}

theorem Alike.trans {last : TypeTable} (h : table.Alike other) (h' : other.Alike last) :
    table.Alike last :=
  ⟨h'.root_eq.trans h.root_eq, h'.entries_perm.trans h.entries_perm⟩

theorem Alike.symm (h : table.Alike other) : other.Alike table :=
  ⟨h.root_eq.symm, h.entries_perm.symm⟩

/-- The names of the properties are apart in all types of a table. -/
def PropertiesApart (table : TypeTable) : Prop :=
  ∀ entry ∈ table.entries, entry.node.NamesApart

theorem Alike.propertiesApart (h : table.Alike other) (apart : table.PropertiesApart) :
    other.PropertiesApart := by
  intro twin hm
  have listed := h.entries_perm.subset (List.mem_map_of_mem hm)
  obtain ⟨entry, he, canonical⟩ := List.mem_map.mp listed
  have same := (TypeEntry.canonical_eq_iff.mp canonical.symm).2.2.1
  exact TypeNode.namesApart_of_sorted_eq same (apart entry he)

theorem Alike.getIdent? (h : table.Alike other) (ident : String) :
    (other.getIdent? ident).map TypeEntry.canonical =
      (table.getIdent? ident).map TypeEntry.canonical :=
  h.map_canonical_eq getIdent?_eq_some_iff fun _ => .rfl

theorem Alike.lookup? (h : table.Alike other) (name : String) :
    (other.lookup? name).map TypeEntry.canonical =
      (table.lookup? name).map TypeEntry.canonical := by
  unfold TypeTable.lookup?
  obtain ⟨ho, ht⟩ | ⟨twin, entry, ho, ht, same⟩ := option_map_eq_map_cases (h.get? name)
  · rw [ho, ht]
    exact h.getIdent? name
  · rw [ho, ht]
    exact congrArg some same

/-- Tables of the same types check alike, whatever the order of their types and of the members of
the value. -/
theorem Alike.check (h : table.Alike other) {value turned : Json} (apart : value.NamesApart)
    (reordered : Relation.ReflTransGen Json.Reorders value turned) (typeName : String) :
    other.check typeName turned = table.check typeName value := by
  have turns (node : TypeNode) : turned.NamesApart ∧
      CheckedTypes.checkValue other node [] turned =
        CheckedTypes.checkValue other node [] value := by
    induction reordered with
    | refl => exact ⟨apart, rfl⟩
    | tail _ step ih =>
      obtain ⟨apart, same⟩ := ih
      exact ⟨step.namesApart apart, (checkValue_reordered step apart node []).trans same⟩
  unfold TypeTable.check
  obtain ⟨ho, ht⟩ | ⟨twin, entry, ho, ht, canonical⟩ :=
    option_map_eq_map_cases (h.lookup? typeName)
  · rw [ho, ht]
  · rw [ho, ht]
    have same := (TypeEntry.canonical_eq_iff.mp canonical).2.2.1
    exact (turns twin.node).2.trans (h.checkValue same [] value)

end TypeTable

namespace SchemaDocument

theorem propertiesApart_toTypeTable {document : SchemaDocument} {root : Option String}
    {table : TypeTable} (apart : document.NamesApart)
    (h : document.toTypeTable root = .ok table) : table.PropertiesApart := by
  intro entry hm properties required hw
  obtain ⟨inner, place, hi, hn⟩ := exists_within_of_toTypeTable h hm
  obtain ⟨last, place, hl, hp⟩ := exists_within_of_toTypeNode hn hw
  have names := map_eq_of_forall₂ (propertyNodes_eq_ok_iff.mp (properties_of_toTypeNode hp))
    (f := Prod.fst) (g := Prod.fst) fun _ _ h => h.1.symm
  exact names ▸ (apart last (hl.trans hi)).properties

theorem exists_alike_of_rearranged {document other : SchemaDocument}
    (h : Relation.ReflTransGen Rearranges document other) {root : Option String}
    {table : TypeTable} (ht : document.toTypeTable root = .ok table)
    (apart : table.PropertiesApart) :
    ∃ twin, other.toTypeTable root = .ok twin ∧ table.Alike twin := by
  induction h with
  | refl => exact ⟨table, ht, rfl, .refl _⟩
  | tail _ step ih =>
    obtain ⟨between, hb, alike⟩ := ih
    obtain ⟨twin, htwin, alike'⟩ := step.toTypeTable hb (alike.propertiesApart apart)
    exact ⟨twin, htwin, alike.trans alike'⟩

/-- The result of a check does not depend on the order in which a document lists its properties,
its definitions and what is required, on the section a definition stands in, or on the order in
which a value lists its members. -/
theorem check_rearranged {document other : SchemaDocument} {root : Option String}
    {table : TypeTable} {value turned : Json} (apart : document.NamesApart)
    (rearranged : Relation.ReflTransGen Rearranges document other)
    (ht : document.toTypeTable root = .ok table) (apart' : value.NamesApart)
    (reordered : Relation.ReflTransGen Json.Reorders value turned) :
    ∃ twin, other.toTypeTable root = .ok twin ∧
      ∀ typeName, twin.check typeName turned = table.check typeName value := by
  obtain ⟨twin, htwin, alike⟩ :=
    exists_alike_of_rearranged rearranged ht (propertiesApart_toTypeTable apart ht)
  exact ⟨twin, htwin, alike.check apart' reordered⟩

theorem trayDocument_namesApart : trayDocument.NamesApart := by
  have none : SectionNamesApart none := ⟨.nil, nofun⟩
  have plain (kind : String) (string : StringConstraints) :
      NamesApart { typeNames := some (.one kind), string } :=
    namesApart_iff.mpr ⟨none, ⟨nofun, nofun⟩, none, none⟩
  refine namesApart_iff.mpr ⟨none, ⟨nofun, nofun⟩, ⟨by decide, fun name inner hm => ?_⟩, none⟩
  fin_cases hm
  · refine namesApart_iff.mpr ⟨⟨by decide, fun name inner hm => ?_⟩, ⟨nofun, nofun⟩, none, none⟩
    fin_cases hm
    · exact plain _ _
    · exact plain _ _
  · exact plain _ _

/-- Both members are wrong; the first in the order of names is reported. -/
theorem check_rearranged_tray :
    ∃ twin, rearrangedTrayDocument.toTypeTable none = .ok twin ∧
      twin.check "part" (.object [("area", .boolean true), ("code", .null)]) =
        .error (.violation (.expected "string") [.key "area"]) := by
  have flat : trayDocument.toTypeTable none = .ok trayTable := by cbv
  have apart : Json.NamesApart (.object [("code", .null), ("area", .boolean true)]) := by
    refine Json.namesApart_object.mpr ⟨by decide, fun name value hm => ?_⟩
    fin_cases hm
    · rintro members ⟨⟩
    · rintro members ⟨⟩
  have turned : Relation.ReflTransGen Json.Reorders
      (.object [("code", .null), ("area", .boolean true)])
      (.object [("area", .boolean true), ("code", .null)]) :=
    .single (.members (.swap _ _ []))
  obtain ⟨twin, htwin, same⟩ :=
    check_rearranged trayDocument_namesApart rearranges_tray flat apart turned
  refine ⟨twin, htwin, (same "part").trans ?_⟩
  cbv

end SchemaDocument

end CheckedTypes
