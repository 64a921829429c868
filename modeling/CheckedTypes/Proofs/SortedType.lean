import CheckedTypes.Proofs.WellFormedSchema

namespace CheckedTypes

/-- Sorting by a name puts the names in order. -/
theorem pairwise_mergeSort_key {α : Type} (key : α → String) (list : List α) :
    (list.mergeSort (fun a b => !decide (key b < key a))).Pairwise fun a b => key a ≤ key b := by
  have ordered := @List.pairwise_mergeSort α (fun a b => !decide (key b < key a))
    (fun a b c hab hbc => by
      simp only [Bool.not_eq_true', decide_eq_false_iff_not, not_lt] at hab hbc ⊢
      exact hab.trans hbc)
    (fun a b => by
      simp only [Bool.or_eq_true, Bool.not_eq_true', decide_eq_false_iff_not, not_lt]
      exact le_total _ _) list
  simpa only [Bool.not_eq_true', decide_eq_false_iff_not, not_lt] using ordered

theorem sortByName_sorted {α : Type} (named : List (String × α)) :
    ((sortByName named).map Prod.fst).Pairwise (· ≤ ·) :=
  List.pairwise_map.mpr (pairwise_mergeSort_key Prod.fst named)

/-- Where names differ, the sorted list does not depend on the order before. -/
theorem mergeSort_eq_of_perm {α : Type} {key : α → String} {list others : List α}
    (h : list.Perm others) (nodup : (list.map key).Nodup) :
    list.mergeSort (fun a b => !decide (key b < key a)) =
      others.mergeSort (fun a b => !decide (key b < key a)) := by
  refine List.Perm.eq_of_pairwise (fun a b ha hb hab hba => ?_) (pairwise_mergeSort_key key list)
    (pairwise_mergeSort_key key others)
    (((List.mergeSort_perm _ _).trans h).trans (List.mergeSort_perm _ _).symm)
  exact List.inj_on_of_nodup_map nodup ((List.mergeSort_perm _ _).subset ha)
    (h.symm.subset ((List.mergeSort_perm _ _).subset hb)) (hab.antisymm hba)

theorem sortByName_eq_of_perm {α : Type} {named others : List (String × α)}
    (h : named.Perm others) (nodup : (named.map Prod.fst).Nodup) :
    sortByName named = sortByName others :=
  mergeSort_eq_of_perm h nodup

namespace TypeNode

/-- In every object the properties have names of their own. -/
def NamesApart (node : TypeNode) : Prop :=
  ∀ properties required, (object properties required).Within node →
    (properties.map Prod.fst).Nodup

theorem NamesApart.items {items : TypeNode} {additionalItems : Bool}
    {constraints : ArrayConstraints}
    (h : (array (some items) additionalItems constraints).NamesApart) : items.NamesApart :=
  fun _ _ hw => h _ _ (.items hw)

theorem NamesApart.property {properties : List (String × TypeNode)}
    {required : Option (List String)} (h : (object properties required).NamesApart) {name : String}
    {node : TypeNode} (hm : (name, node) ∈ properties) : node.NamesApart :=
  fun _ _ hw => h _ _ (.property hm hw)

theorem map_fst_sorted (properties : List (String × TypeNode)) :
    (properties.map fun property => (property.1, property.2.sorted)).map Prod.fst =
      properties.map Prod.fst := by
  rw [List.map_map]
  rfl

theorem requiredNames_sorted (properties : List (String × TypeNode))
    (required : Option (List String)) :
    requiredNames (properties.map fun property => (property.1, property.2.sorted)) required =
      requiredNames properties required := by
  rw [requiredNames, map_fst_sorted, requiredNames]

theorem requiredNames_filtered (properties : List (String × TypeNode))
    (required : Option (List String)) :
    requiredNames properties (some (requiredNames properties required)) =
      requiredNames properties required := by
  unfold requiredNames
  refine List.filter_congr fun name hn => ?_
  simp only [List.contains_eq_mem, Option.getD_some, List.mem_filter, hn, true_and,
    decide_eq_true_eq]

theorem sorted_array (items : Option TypeNode) (additionalItems : Bool)
    (constraints : ArrayConstraints) :
    (array items additionalItems constraints).sorted =
      array (items.map sorted) additionalItems constraints := by
  cases items <;> rfl

theorem sorted_object (properties : List (String × TypeNode)) (required : Option (List String)) :
    (object properties required).sorted =
      let properties := sortByName (properties.map fun property => (property.1, property.2.sorted))
      object properties (some (requiredNames properties required)) := by
  rw [sorted, sortedProperties_eq_map]

/-- An object is the same when it is sorted if its properties are, in whatever order, and the same
of them are required. -/
theorem sorted_object_eq {properties others : List (String × TypeNode)}
    {required demanded : Option (List String)} (nodup : (properties.map Prod.fst).Nodup)
    (perm : (properties.map fun property => (property.1, property.2.sorted)).Perm
      (others.map fun property => (property.1, property.2.sorted)))
    (same : ∀ name ∈ properties.map Prod.fst,
      name ∈ required.getD [] ↔ name ∈ demanded.getD []) :
    (object properties required).sorted = (object others demanded).sorted := by
  rw [sorted_object, sorted_object]
  dsimp only
  rw [← sortByName_eq_of_perm perm (map_fst_sorted properties ▸ nodup)]
  have asked : requiredNames (sortByName (properties.map fun property =>
      (property.1, property.2.sorted))) required =
        requiredNames (sortByName (properties.map fun property =>
          (property.1, property.2.sorted))) demanded := by
    unfold requiredNames
    refine List.filter_congr fun name hn => ?_
    have hn := ((sortByName_perm _).map Prod.fst).subset hn
    simpa using same name (map_fst_sorted properties ▸ hn)
  rw [asked]

theorem sorted_eq_enumeration {node : TypeNode} {values : List String} :
    node.sorted = enumeration values ↔ node = enumeration values := by
  cases node with
  | array items => cases items <;> simp [sorted]
  | _ => simp [sorted]

/-- Sorting makes no references. -/
theorem reference_within_of_sorted {pointer : String} {node : TypeNode}
    (h : (reference pointer).Within node.sorted) : (reference pointer).Within node := by
  induction node with
  | null | boolean | integer | number | string | bareArray | enumeration | reference => exact h
  | array items additionalItems constraints ih =>
    rw [sorted] at h
    cases h with
    | items h => exact .items (ih h)
  | object properties required ih =>
    rw [sorted_object] at h
    cases h with
    | property hm h =>
      obtain ⟨⟨name, node⟩, hp, he⟩ := List.mem_map.mp (mem_sortByName.mp hm)
      obtain ⟨rfl, rfl⟩ := Prod.mk.inj he
      exact .property hp (ih name node hp h)

theorem isAnyConstrained_map {table : TypeTable} {explicit : Bool} {validated : List String}
    {properties : List (String × TypeNode)}
    (same : ∀ name node, (name, node) ∈ properties →
      node.sorted.isConstrained table explicit validated =
        node.isConstrained table explicit validated) :
    isAnyConstrained table explicit validated
        (properties.map fun property => (property.1, property.2.sorted)) =
      isAnyConstrained table explicit validated properties := by
  induction properties with
  | nil => rfl
  | cons property rest ih =>
    obtain ⟨name, node⟩ := property
    rw [List.map_cons, isAnyConstrained, isAnyConstrained, same name node List.mem_cons_self,
      ih fun other part hm => same other part (List.mem_cons_of_mem _ hm)]

/-- Where all references lead to a type, a sorted type is constrained exactly if the type is. -/
theorem isConstrained_sorted {table : TypeTable} {explicit : Bool} {validated : List String}
    {node : TypeNode}
    (lead : ∀ pointer, (reference pointer).Within node.sorted →
      ∃ entry, table.resolve pointer = .ok entry) :
    node.sorted.isConstrained table explicit validated =
      node.isConstrained table explicit validated := by
  induction node with
  | null | boolean | integer | number | string | bareArray | enumeration | reference => rfl
  | array items additionalItems constraints ih =>
    rw [sorted] at lead ⊢
    rw [isConstrained, isConstrained]
    simp only [ih fun pointer hw => lead pointer (.items hw)]
  | object properties required ih =>
    have perm := sortByName_perm (properties.map fun property => (property.1, property.2.sorted))
    have inside : ∀ name node, (name, node) ∈ properties → ∀ pointer,
        (reference pointer).Within node.sorted → ∃ entry, table.resolve pointer = .ok entry := by
      intro name node hm pointer hw
      refine lead pointer ?_
      rw [sorted_object]
      exact .property (perm.symm.subset (List.mem_map_of_mem hm)) hw
    have total : ∀ name node, (name, node) ∈ sortByName (properties.map fun property =>
        (property.1, property.2.sorted)) →
          ∃ constrained, node.isConstrained table explicit validated = .ok constrained := by
      intro name node hm
      refine isConstrained_total (fun _ pointer hw => lead pointer ?_) validated
      rw [sorted_object]
      exact .property hm hw
    have asked : (requiredNames _ required).Perm (requiredNames _ required) :=
      requiredNames_perm perm
    rw [requiredNames_sorted] at asked
    rw [sorted_object, isConstrained, isConstrained, requiredNames_filtered, asked.isEmpty_eq,
      isAnyConstrained_perm perm total,
      isAnyConstrained_map fun name node hm => ih name node hm (inside name node hm)]

end TypeNode

theorem TypeTable.WellFormed.namesApart {table : TypeTable} (h : table.WellFormed)
    {entry : TypeEntry} (hm : entry ∈ table.entries) : entry.node.NamesApart := by
  intro properties required hw
  have names : (properties.map fun property => renderName property.1).Nodup :=
    h.supported hm hw rfl
  refine .of_map renderName ?_
  rwa [List.map_map]

end CheckedTypes
