import CheckedTypes.Proofs.Ignorability

namespace CheckedTypes

namespace TypeNode

/-- What a type needs so that it can be generated, its parts apart. -/
def Supported (table : TypeTable) : TypeNode → Prop
  | .array items additionalItems _ => items.isSome ∧ additionalItems = false
  | .object properties _ => (properties.map fun property => renderName property.1).Nodup
  | .enumeration _ => False
  | .reference pointer => ∃ entry, table.resolve pointer = .ok entry
  | _ => True

/-- Every part can be generated, at any depth. -/
def WellFormed (table : TypeTable) (node : TypeNode) : Prop :=
  ∀ part : TypeNode, part.Within node → part.Supported table

variable {table : TypeTable}

theorem wellFormed_array {items : TypeNode} {additionalItems : Bool}
    {constraints : ArrayConstraints} :
    (array (some items) additionalItems constraints).WellFormed table ↔
      additionalItems = false ∧ items.WellFormed table := by
  constructor
  · intro h
    have here := h _ .here
    exact ⟨here.2, fun part hw => h part (.items hw)⟩
  · rintro ⟨rfl, h⟩ part hw
    cases hw with
    | here => exact ⟨rfl, rfl⟩
    | items hw => exact h part hw

theorem wellFormed_object {properties : List (String × TypeNode)}
    {required : Option (List String)} :
    (object properties required).WellFormed table ↔
      (properties.map fun property => renderName property.1).Nodup ∧
        ∀ name node, (name, node) ∈ properties → node.WellFormed table := by
  constructor
  · intro h
    exact ⟨h _ .here, fun name node hm part hw => h part (.property hm hw)⟩
  · rintro ⟨nodup, h⟩ part hw
    cases hw with
    | here => exact nodup
    | property hm hw => exact h _ _ hm part hw

theorem wellFormed_reference {pointer : String} :
    (reference pointer).WellFormed table ↔ ∃ entry, table.resolve pointer = .ok entry := by
  constructor
  · exact fun h => h _ .here
  · rintro h part ⟨⟩
    exact h

end TypeNode

namespace EmissionContext

variable {context : EmissionContext} {cursor : Cursor} {optional : Bool} {next : Nat}
  {ignorable : Bool} {checks : List Statement} {patterns : List String}

/-- No ill-formed part is skipped. -/
theorem Emits.wellFormed
    (h : context.Emits cursor optional next node ignorable checks patterns) :
    node.WellFormed context.table := by
  induction node generalizing cursor optional next ignorable checks patterns with
  | null | boolean | integer | number | string =>
    rintro part ⟨⟩
    trivial
  | bareArray => exact absurd h not_emits_bareArray
  | array items additionalItems constraints ih =>
    obtain ⟨single, a, elements, hi, -⟩ := h.array
    exact TypeNode.wellFormed_array.mpr ⟨single, ih hi⟩
  | object properties required ih =>
    obtain ⟨apart, a, members, hm, -⟩ := h.object
    have perm := sortByName_perm properties
    have names := (collision?_eq_none_iff.mp apart).1
    rw [List.map_map] at names
    refine TypeNode.wellFormed_object.mpr ⟨(perm.map _).nodup_iff.mp names, fun name node hn => ?_⟩
    obtain ⟨start, b, others, used, -, he⟩ := hm.emits_of_mem (perm.symm.subset hn)
    exact ih name node hn he
  | enumeration => exact absurd h not_emits_enumeration
  | reference pointer =>
    obtain ⟨entry, hr, -⟩ := h.reference
    exact TypeNode.wellFormed_reference.mpr ⟨entry, hr⟩

theorem exists_memberEmissions {required : List String} {properties : List (String × TypeNode)}
    (each : ∀ property ∈ properties, ∀ cursor optional next, ∃ result,
      (context.emission cursor optional next property.2.sorted).outcome = .ok result) :
    ∃ result, (context.memberEmissions cursor required next
      (properties.map fun property => (property.1, property.2.sorted))).outcome = .ok result := by
  induction properties generalizing next with
  | nil => exact ⟨_, rfl⟩
  | cons property rest ih =>
    obtain ⟨name, node⟩ := property
    obtain ⟨first, each⟩ := List.forall_mem_cons.mp each
    rw [List.map_cons, memberEmissions]
    obtain ⟨⟨a, checks⟩, here⟩ := first (cursor.field name) (!required.contains name) next
    obtain ⟨⟨b, more⟩, others⟩ := ih each
    exact ⟨_, Emission.andThen_outcome (Emission.within_outcome here) others⟩

/-- A well-formed type is not refused, wherever it stands. -/
theorem exists_emission {node : TypeNode} (h : node.WellFormed context.table) (cursor : Cursor)
    (optional : Bool) (next : Nat) :
    ∃ result, (context.emission cursor optional next node.sorted).outcome = .ok result := by
  induction node generalizing cursor optional next with
  | null | boolean | integer | number | string => exact ⟨_, rfl⟩
  | bareArray =>
    have missing := (h _ .here).1
    simp at missing
  | array items additionalItems constraints ih =>
    obtain ⟨rfl, inside⟩ := TypeNode.wellFormed_array.mp h
    obtain ⟨⟨a, elements⟩, ho⟩ := ih inside cursor.element false next
    rw [TypeNode.sorted, emission, if_neg (by simp)]
    exact ⟨_, Emission.within_outcome ho⟩
  | object properties required ih =>
    obtain ⟨names, inside⟩ := TypeNode.wellFormed_object.mp h
    have perm := sortByName_perm properties
    have apart : collision? [] ((sortByName properties).map Prod.fst) = none := by
      refine collision?_eq_none_iff.mpr ⟨?_, by simp⟩
      rw [List.map_map]
      exact (perm.map _).nodup_iff.mpr names
    have each : ∀ property ∈ sortByName properties, ∀ cursor optional next, ∃ result,
        (context.emission cursor optional next property.2.sorted).outcome = .ok result :=
      fun property hp => ih property.1 property.2 (perm.subset hp) (inside _ _ (perm.subset hp))
    obtain ⟨⟨a, members⟩, ho⟩ := exists_memberEmissions each
    rw [emission_sorted_object, apart]
    exact ⟨_, Emission.within_outcome ho⟩
  | enumeration => exact absurd (h _ .here) (by simp [TypeNode.Supported])
  | reference pointer =>
    obtain ⟨entry, hr⟩ := TypeNode.wellFormed_reference.mp h
    simp only [TypeNode.sorted, emission, hr]
    split
    next => exact ⟨_, rfl⟩
    next => exact ⟨_, rfl⟩

end EmissionContext

end CheckedTypes
