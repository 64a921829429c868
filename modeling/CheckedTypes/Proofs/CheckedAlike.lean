import CheckedTypes.Proofs.CanonicalTable
import CheckedTypes.Proofs.CheckedValidity
import CheckedTypes.Proofs.DroppedMember

namespace CheckedTypes

section

variable {α : Type} (named : List (String × α)) (name : String)

theorem lookup_filter_name :
    (named.filter fun entry => name == entry.1).lookup name = named.lookup name := by
  induction named with
  | nil => rfl
  | cons entry rest ih =>
    obtain ⟨first, a⟩ := entry
    rw [List.filter_cons]
    cases he : name == first with
    | true => simp [List.lookup_cons, he]
    | false => simp [List.lookup_cons, he, ih]

/-- Sorting keeps what goes by one name in its order. -/
theorem filter_sortByName :
    (sortByName named).filter (fun entry => name == entry.1) =
      named.filter fun entry => name == entry.1 := by
  have ordered : (named.filter fun entry => name == entry.1).Pairwise
      fun a b => !decide (b.1 < a.1) := by
    refine List.pairwise_of_forall_mem_list fun a ha b hb => ?_
    have first : name = a.1 := by simpa using (List.mem_filter.mp ha).2
    have second : name = b.1 := by simpa using (List.mem_filter.mp hb).2
    simp [← first, ← second]
  have kept : (named.filter fun entry => name == entry.1).Sublist (sortByName named) := by
    refine List.sublist_mergeSort (fun a b c hab hbc => ?_) (fun a b => ?_) ordered
      List.filter_sublist
    · simp only [Bool.not_eq_true', decide_eq_false_iff_not, not_lt] at hab hbc ⊢
      exact hab.trans hbc
    · simp only [Bool.or_eq_true, Bool.not_eq_true', decide_eq_false_iff_not, not_lt]
      exact le_total _ _
  have inside := kept.filter fun entry => name == entry.1
  rw [List.filter_filter] at inside
  simp only [Bool.and_self] at inside
  have count := ((sortByName_perm named).filter fun entry => name == entry.1).length_eq
  exact (inside.eq_of_length count.symm).symm

theorem lookup_sortByName : (sortByName named).lookup name = named.lookup name := by
  rw [← lookup_filter_name, filter_sortByName, lookup_filter_name]

theorem lookup_map_snd {β : Type} (f : α → β) :
    (named.map fun entry => (entry.1, f entry.2)).lookup name = (named.lookup name).map f := by
  induction named with
  | nil => rfl
  | cons entry rest ih =>
    obtain ⟨first, a⟩ := entry
    rw [List.map_cons, List.lookup_cons, List.lookup_cons]
    cases name == first with
    | true => rfl
    | false => exact ih

end

namespace TypeNode

variable {properties others : List (String × TypeNode)} {required demanded : Option (List String)}

theorem isReference_sorted (node : TypeNode) : node.sorted.isReference = node.isReference := by
  cases node with
  | array items => cases items <;> rfl
  | _ => rfl

/-- Sorting changes nothing but arrays and objects. -/
theorem eq_of_sorted_eq {node twin : TypeNode} (flat : node.isComposite = false)
    (same : twin.sorted = node.sorted) : twin = node := by
  have still : node.sorted = node := by
    cases node with
    | array => cases flat
    | object => cases flat
    | _ => rfl
  rw [still] at same
  subst same
  cases twin with
  | array items => cases items <;> cases flat
  | object => cases flat
  | _ => rfl

theorem exists_array_of_sorted_eq {twin : TypeNode} {items : Option TypeNode}
    {additionalItems : Bool} {constraints : ArrayConstraints}
    (same : twin.sorted = (array items additionalItems constraints).sorted) :
    ∃ others, twin = array others additionalItems constraints ∧
      others.map sorted = items.map sorted := by
  rw [sorted_array] at same
  cases twin with
  | array others =>
    rw [sorted_array] at same
    obtain ⟨inner, rfl, rfl⟩ := array.inj same
    exact ⟨others, rfl, inner⟩
  | _ => cases same

theorem exists_object_of_sorted_eq {twin : TypeNode}
    (same : twin.sorted = (object properties required).sorted) :
    ∃ others demanded, twin = object others demanded := by
  rw [sorted_object] at same
  cases twin with
  | object others demanded => exact ⟨others, demanded, rfl⟩
  | array items => cases items <;> cases same
  | _ => cases same

/-- Objects that are the same when they are sorted have the same properties, up to the order inside
of these, and require the same. -/
theorem sorted_object_iff :
    (object others demanded).sorted = (object properties required).sorted ↔
      ((sortByName others).map fun entry => (entry.1, entry.2.sorted)) =
          ((sortByName properties).map fun entry => (entry.1, entry.2.sorted)) ∧
        requiredNames (sortByName others) demanded =
          requiredNames (sortByName properties) required := by
  rw [sorted_object, sorted_object]
  dsimp only
  rw [sortByName_map, sortByName_map, requiredNames_sorted, requiredNames_sorted]
  simp

theorem map_fst_sortByName_of_alike
    (same : (object others demanded).sorted = (object properties required).sorted) :
    (sortByName others).map Prod.fst = (sortByName properties).map Prod.fst := by
  have names := congrArg (List.map Prod.fst) (sorted_object_iff.mp same).1
  rwa [map_fst_sorted, map_fst_sorted] at names

theorem lookup_of_alike
    (same : (object others demanded).sorted = (object properties required).sorted)
    (name : String) :
    (others.lookup name).map sorted = (properties.lookup name).map sorted := by
  have found := congrArg (List.lookup name) (sorted_object_iff.mp same).1
  rwa [lookup_map_snd, lookup_map_snd, lookup_sortByName, lookup_sortByName] at found

theorem mem_requiredNames_sortByName {name : String} :
    name ∈ requiredNames (sortByName properties) required ↔
      name ∈ properties.map Prod.fst ∧ requires required name = true := by
  rw [(requiredNames_perm (sortByName_perm properties)).mem_iff, requiredNames, List.mem_filter,
    requires]

theorem requires_of_alike
    (same : (object others demanded).sorted = (object properties required).sorted)
    {name : String} {node : TypeNode} (hn : properties.lookup name = some node) :
    requires demanded name = requires required name := by
  have found := lookup_of_alike same name
  rw [hn, Option.map_some, Option.map_eq_some_iff] at found
  obtain ⟨twin, ht, -⟩ := found
  have declared : name ∈ properties.map Prod.fst := List.mem_map_of_mem (mem_of_lookup hn)
  have declared' : name ∈ others.map Prod.fst := List.mem_map_of_mem (mem_of_lookup ht)
  have asked : name ∈ requiredNames (sortByName others) demanded ↔
      name ∈ requiredNames (sortByName properties) required := by
    rw [(sorted_object_iff.mp same).2]
  rw [mem_requiredNames_sortByName, mem_requiredNames_sortByName] at asked
  rw [Bool.eq_iff_iff]
  simpa only [declared, declared', true_and] using asked

end TypeNode

theorem missingMember?_of_alike {properties others : List (String × TypeNode)}
    {required demanded : Option (List String)}
    (same : (TypeNode.object others demanded).sorted =
      (TypeNode.object properties required).sorted) (members : List (String × Json)) :
    missingMember? others demanded members = missingMember? properties required members := by
  rw [missingMember?, missingMember?, (TypeNode.sorted_object_iff.mp same).2]

namespace TypeTable

variable {table other : TypeTable}

theorem Alike.size (h : table.Alike other) : other.size = table.size := by
  simpa [TypeTable.size] using h.entries_perm.length_eq

theorem Alike.resolve_cases (h : table.Alike other) (pointer : String) :
    (∃ fault, table.resolve pointer = .error fault ∧ other.resolve pointer = .error fault) ∨
      ∃ entry twin, table.resolve pointer = .ok entry ∧ other.resolve pointer = .ok twin ∧
        twin.node.sorted = entry.node.sorted := by
  have leads := h.resolve pointer
  cases hr : table.resolve pointer with
  | error fault =>
    rw [hr] at leads
    cases ho : other.resolve pointer with
    | error fault' =>
      rw [ho] at leads
      cases leads
      exact .inl ⟨fault, rfl, rfl⟩
    | ok twin =>
      rw [ho] at leads
      cases leads
  | ok entry =>
    rw [hr] at leads
    obtain ⟨twin, ho, canonical⟩ := exists_of_map_eq_ok leads
    exact .inr ⟨entry, twin, rfl, ho, (TypeEntry.canonical_eq_iff.mp canonical).2.2.1⟩

/-- References lead to the same type, up to order, or nowhere for the same reason. -/
theorem Alike.dereference (h : table.Alike other) {node twin : TypeNode}
    (same : twin.sorted = node.sorted) (hops : Nat) :
    (∃ fault, table.dereference hops node = .error fault ∧
        other.dereference hops twin = .error fault) ∨
      ∃ target last restarts, table.dereference hops node = .ok (target, restarts) ∧
        other.dereference hops twin = .ok (last, restarts) ∧ last.sorted = target.sorted := by
  have stop : twin.isReference = node.isReference := by
    rw [← TypeNode.isReference_sorted, same, TypeNode.isReference_sorted]
  induction hops generalizing node twin with
  | zero =>
    cases hn : node.isReference with
    | false =>
      exact .inr ⟨node, twin, false, dereference_self _ _ hn, dereference_self _ _ (stop.trans hn),
        same⟩
    | true =>
      obtain ⟨pointer, rfl⟩ := TypeNode.exists_pointer hn
      cases TypeNode.eq_of_sorted_eq rfl same
      exact .inl ⟨.endless, rfl, rfl⟩
  | succ hops ih =>
    cases hn : node.isReference with
    | false =>
      exact .inr ⟨node, twin, false, dereference_self _ _ hn, dereference_self _ _ (stop.trans hn),
        same⟩
    | true =>
      obtain ⟨pointer, rfl⟩ := TypeNode.exists_pointer hn
      cases TypeNode.eq_of_sorted_eq rfl same
      rcases h.resolve_cases pointer with ⟨fault, hr, ho⟩ | ⟨entry, found, hr, ho, alike⟩
      · exact .inl ⟨.schema fault, by rw [TypeTable.dereference, hr],
          by rw [TypeTable.dereference, ho]⟩
      · have here : found.node.isReference = entry.node.isReference := by
          rw [← TypeNode.isReference_sorted, alike, TypeNode.isReference_sorted]
        rw [dereference_reference hr, dereference_reference ho]
        rcases ih alike here with ⟨fault, hd, hd'⟩ | ⟨target, last, _, hd, hd', ends⟩
        · rw [hd, hd']
          exact .inl ⟨fault, rfl, rfl⟩
        · rw [hd, hd']
          exact .inr ⟨target, last, true, rfl, rfl, ends⟩

theorem checkElements_congr {items twin : TypeNode} {elements : List Json}
    (h : ∀ element ∈ elements, ∀ path,
      checkValue other twin path element = checkValue table items path element)
    (path : List ValueStep) (position : Nat) :
    checkElements other twin path position elements =
      checkElements table items path position elements := by
  induction elements generalizing position with
  | nil => rfl
  | cons first rest ih =>
    obtain ⟨here, behind⟩ := List.forall_mem_cons.mp h
    rw [checkElements, checkElements, here, ih behind]

theorem checkMember_of_alike {properties others : List (String × TypeNode)}
    {required demanded : Option (List String)}
    (same : (TypeNode.object others demanded).sorted =
      (TypeNode.object properties required).sorted) {value : Json}
    (h : ∀ node twin : TypeNode, twin.sorted = node.sorted → ∀ path,
      checkValue other twin path value = checkValue table node path value)
    (path : List ValueStep) (name : String) :
    other.checkMember others demanded path name value =
      table.checkMember properties required path name value := by
  have found := TypeNode.lookup_of_alike same name
  cases hn : properties.lookup name with
  | none =>
    rw [hn, Option.map_none, Option.map_eq_none_iff] at found
    rw [checkMember_undeclared hn, checkMember_undeclared found]
  | some node =>
    have asked := TypeNode.requires_of_alike same hn
    rw [hn, Option.map_some, Option.map_eq_some_iff] at found
    obtain ⟨twin, ht, alike⟩ := found
    unfold checkMember
    rw [hn, ht]
    dsimp only
    rw [asked, h node twin alike]

theorem checkValue_of_flat {node : TypeNode} (flat : node.isComposite = false)
    (stop : node.isReference = false) (path : List ValueStep) (value : Json) :
    checkValue other node path value = checkValue table node path value := by
  cases node with
  | null => rw [checkValue_null, checkValue_null]
  | boolean => rw [checkValue_boolean, checkValue_boolean]
  | integer constraints => rw [checkValue_integer, checkValue_integer]
  | number constraints => rw [checkValue_number, checkValue_number]
  | string constraints => rw [checkValue_string, checkValue_string]
  | enumeration values => rw [checkValue_enumeration, checkValue_enumeration]
  | array | object => cases flat
  | reference => cases stop

/-- A value is checked with the same result against the same type of another order. -/
theorem Alike.checkValue (h : table.Alike other) {node twin : TypeNode}
    (same : twin.sorted = node.sorted) (path : List ValueStep) (value : Json) :
    checkValue other twin path value = checkValue table node path value := by
  rcases h.dereference same table.size with
    ⟨fault, hd, hd'⟩ | ⟨target, last, restarts, hd, hd', alike⟩
  · rw [checkValue.eq_def, checkValue.eq_def table, h.size, hd, hd']
  · have stop := (endsAt_of_dereference hd).1.isReference
    rw [checkValue_dereference hd, checkValue_dereference (h.size.symm ▸ hd')]
    generalize (if restarts then [] else path) = path
    clear hd hd' same
    by_cases flat : target.isComposite = false
    · cases TypeNode.eq_of_sorted_eq flat alike
      exact checkValue_of_flat flat stop path value
    cases target with
    | array items additionalItems constraints =>
      obtain ⟨others, rfl, inner⟩ := TypeNode.exists_array_of_sorted_eq alike
      cases items with
      | none =>
        rw [Option.map_none, Option.map_eq_none_iff] at inner
        rw [inner, checkValue_bareArray, checkValue_bareArray]
      | some items =>
        rw [Option.map_some, Option.map_eq_some_iff] at inner
        obtain ⟨twin, rfl, inner⟩ := inner
        rw [checkValue_array, checkValue_array]
        cases value with
        | list elements =>
          dsimp only
          rw [checkElements_congr fun element hm path =>
            have smaller := List.sizeOf_lt_of_mem hm
            h.checkValue inner path element]
        | _ => rfl
    | object properties required =>
      obtain ⟨others, demanded, rfl⟩ := TypeNode.exists_object_of_sorted_eq alike
      rw [checkValue_object, checkValue_object]
      cases value with
      | object members =>
        dsimp only
        have results (name : String) :
            ((checkMembers other others demanded path members).lookup name).getD (.ok ()) =
              ((checkMembers table properties required path members).lookup name).getD
                (.ok ()) := by
          rw [lookup_checkMembers, lookup_checkMembers]
          cases hv : members.lookup name with
          | none => rfl
          | some value =>
            have smaller := sizeOf_lt_of_lookup hv
            exact checkMember_of_alike alike
              (fun node twin same path => h.checkValue same path value) path name
        rw [missingMember?_of_alike alike,
          firstFailure_congr (TypeNode.map_fst_sortByName_of_alike alike) results]
      | _ => rfl
    | _ => exact absurd rfl flat
termination_by sizeOf value
decreasing_by
  · subst_vars
    simp
    omega
  · subst_vars
    simp
    omega

end TypeTable

end CheckedTypes
