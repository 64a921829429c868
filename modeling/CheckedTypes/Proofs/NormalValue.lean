import CheckedTypes.Proofs.NearestNumber
import CheckedTypes.Proofs.ReorderedValue
import CheckedTypes.Proofs.SortedType

namespace CheckedTypes

namespace Binary64

/-- Zero loses its sign. -/
def unsignZero (x : Binary64) : Binary64 :=
  if x.isZero then zero else x

theorem isZero_iff {x : Binary64} : x.isZero = true ↔ x.toInt = 0 := by
  rw [toInt_eq_zero_iff, isZero, beq_iff_eq]

theorem toInt_unsignZero (x : Binary64) : x.unsignZero.toInt = x.toInt := by
  unfold unsignZero
  split
  next zero => exact (isZero_iff.mp zero).symm
  next => rfl

theorem eq_of_toInt_eq {x y : Binary64} (h : x.toInt = y.toInt) (nonzero : x.isZero = false) :
    x = y := by
  have steps : x.steps = y.steps := by rw [← natAbs_toInt, ← natAbs_toInt, h]
  have positive : x.steps ≠ 0 := by simpa [isZero] using nonzero
  obtain ⟨negative, _, _, _⟩ := x
  obtain ⟨negative', _, _, _⟩ := y
  cases steps
  have sign : negative = negative' := by
    cases negative <;> cases negative' <;> simp [toInt] at h positive ⊢ <;> omega
  cases sign
  rfl

/-- Without the sign of zero there is one way to hold a number. -/
theorem unsignZero_eq_iff {x y : Binary64} : x.unsignZero = y.unsignZero ↔ x.toInt = y.toInt := by
  constructor
  · intro h
    rw [← toInt_unsignZero x, h, toInt_unsignZero]
  · intro h
    cases hx : x.isZero with
    | true =>
      have hy : y.isZero = true := isZero_iff.mpr (h.symm.trans (isZero_iff.mp hx))
      rw [unsignZero, unsignZero, if_pos hx, if_pos hy]
    | false => rw [eq_of_toInt_eq h hx]

end Binary64

namespace JsonNumber

/-- The floating-point number next to a number; integers of 64 bits are never too large for one. -/
def nearest (n : JsonNumber) : Binary64 :=
  n.toBinary64?.getD Binary64.zero

theorem nearest_eq {n : JsonNumber} {x : Binary64} (h : n.toBinary64? = some x) : n.nearest = x := by
  rw [nearest, h, Option.getD_some]

theorem toInt_nearest_integer {n : Int} (finite : (integer n).toBinary64?.isSome)
    (small : n.natAbs ≤ significandEnd) : (integer n).nearest.toInt = n * stepsPerUnit := by
  obtain ⟨x, hx⟩ := Option.isSome_iff_exists.mp finite
  rw [nearest_eq hx]
  exact Binary64.toInt_of_small hx small

/-- A number as it is held, apart from the sign of zero. -/
def held : JsonNumber → JsonNumber
  | integer n => integer n
  | real x => real x.unsignZero

/-- A number as it is computed with, apart from the sign of zero. -/
def computed (n : JsonNumber) : JsonNumber :=
  real n.nearest.unsignZero

theorem held_eq_iff {m n : JsonNumber} : m.held = n.held ↔ (m == n) = true := by
  cases m with
  | integer m =>
    cases n with
    | integer n =>
      show integer m = integer n ↔ (m == n) = true
      rw [integer.injEq, beq_iff_eq]
    | real y =>
      show integer m = real _ ↔ false = true
      simp
  | real x =>
    cases n with
    | integer n =>
      show real _ = integer n ↔ false = true
      simp
    | real y =>
      show real x.unsignZero = real y.unsignZero ↔ (x == y) = true
      rw [real.injEq, Binary64.unsignZero_eq_iff, Binary64.beq_iff]

theorem computed_eq_iff {m n : JsonNumber} :
    m.computed = n.computed ↔ m.nearest.toInt = n.nearest.toInt := by
  rw [computed, computed, real.injEq, Binary64.unsignZero_eq_iff]

theorem computed_held (n : JsonNumber) : n.held.computed = n.computed := by
  cases n with
  | integer n => rfl
  | real x => exact computed_eq_iff.mpr x.toInt_unsignZero

theorem computed_computed (n : JsonNumber) : n.computed.computed = n.computed :=
  computed_eq_iff.mpr n.nearest.toInt_unsignZero

end JsonNumber

namespace Json

section

variable (number : JsonNumber → JsonNumber)
  (arrange : List (String × Json) → List (String × Json))

mutual
/-- A value with its numbers in one form and the members of its objects in one order. -/
def normal : Json → Json
  | .null => .null
  | .boolean b => .boolean b
  | .number n => .number (number n)
  | .string s => .string s
  | .list elements => .list (normalElements elements)
  | .object members => .object (arrange (normalMembers members))
def normalElements : List Json → List Json
  | [] => []
  | value :: rest => value.normal :: normalElements rest
def normalMembers : List (String × Json) → List (String × Json)
  | [] => []
  | (name, value) :: rest => (name, value.normal) :: normalMembers rest
end

theorem normalElements_eq_map (elements : List Json) :
    normalElements number arrange elements = elements.map (normal number arrange) := by
  induction elements with
  | nil => rw [normalElements, List.map_nil]
  | cons value rest ih => rw [normalElements, ih, List.map_cons]

theorem normalMembers_eq_map (members : List (String × Json)) :
    normalMembers number arrange members =
      members.map fun member => (member.1, member.2.normal number arrange) := by
  induction members with
  | nil => rw [normalMembers, List.map_nil]
  | cons member rest ih => rw [normalMembers, ih, List.map_cons]

theorem normal_list (elements : List Json) :
    (list elements).normal number arrange = .list (elements.map (normal number arrange)) := by
  rw [normal, normalElements_eq_map]

theorem normal_object (members : List (String × Json)) :
    (object members).normal number arrange =
      .object (arrange (members.map fun member => (member.1, member.2.normal number arrange))) := by
  rw [normal, normalMembers_eq_map]

end

/-- Whoever sorts the members does not see in which order they came. -/
theorem normal_normal {number other : JsonNumber → JsonNumber}
    {arrange : List (String × Json) → List (String × Json)}
    (absorbs : ∀ n, number (other n) = number n) (perm : ∀ members, (arrange members).Perm members)
    {value : Json} (apart : value.NamesApart) :
    (value.normal other arrange).normal number sortByName = value.normal number sortByName := by
  induction value with
  | null => rfl
  | boolean b => rfl
  | number n => exact congrArg Json.number (absorbs n)
  | string s => rfl
  | list elements ih =>
    have inside := namesApart_list.mp apart
    rw [normal_list, normal_list, normal_list, List.map_map]
    exact congrArg list (List.map_congr_left fun element hm => ih element hm (inside element hm))
  | object members ih =>
    obtain ⟨nodup, inside⟩ := namesApart_object.mp apart
    rw [normal_object, normal_object, normal_object]
    refine congrArg object ?_
    have same : (members.map fun member => (member.1, member.2.normal other arrange)).map
        (fun member => (member.1, member.2.normal number sortByName)) =
        members.map fun member => (member.1, member.2.normal number sortByName) := by
      rw [List.map_map]
      refine List.map_congr_left fun member hm => ?_
      exact congrArg (member.1, ·) (ih member.1 member.2 hm (inside member.1 member.2 hm))
    rw [← same]
    refine sortByName_eq_of_perm ((perm _).map _) ?_
    rw [List.map_map]
    show (List.map Prod.fst (arrange _)).Nodup
    rw [((perm _).map Prod.fst).nodup_iff, List.map_map]
    exact nodup

/-- A value as equality of values sees it: numbers keep their form, members have no order. -/
def held (value : Json) : Json :=
  value.normal JsonNumber.held sortByName

/-- The data that a value stands for: numbers have no form and members no order. -/
def data (value : Json) : Json :=
  value.normal JsonNumber.computed sortByName

theorem data_held {value : Json} (apart : value.NamesApart) : value.held.data = value.data :=
  normal_normal JsonNumber.computed_held sortByName_perm apart

theorem sameElements_iff {elements others : List Json}
    (h : ∀ value ∈ elements, ∀ other ∈ others,
      value.same other = true ↔ value.held = other.held) :
    sameElements elements others = true ↔ elements.map held = others.map held := by
  induction elements generalizing others with
  | nil => cases others <;> simp [sameElements]
  | cons value rest ih =>
    cases others with
    | nil => simp [sameElements]
    | cons other others =>
      have first := h value List.mem_cons_self other List.mem_cons_self
      have others := @ih others fun value hv other ho =>
        h value (List.mem_cons_of_mem _ hv) other (List.mem_cons_of_mem _ ho)
      rw [sameElements, Bool.and_eq_true, first, others, List.map_cons, List.map_cons, List.cons.injEq]

/-- Objects of as many members, each of which has one equal to it in the other, hold the same. -/
theorem sameMembers_iff {members others : List (String × Json)}
    (nodup : (members.map Prod.fst).Nodup) (nodup' : (others.map Prod.fst).Nodup)
    (h : ∀ member ∈ members, ∀ other ∈ others,
      member.2.same other.2 = true ↔ member.2.held = other.2.held) :
    (members.length = others.length ∧ sameMembers members others = true) ↔
      sortByName (members.map fun member => (member.1, member.2.held)) =
        sortByName (others.map fun member => (member.1, member.2.held)) := by
  have names (list : List (String × Json)) :
      (list.map fun member => (member.1, member.2.held)).map Prod.fst = list.map Prod.fst := by
    rw [List.map_map]
    rfl
  constructor
  · rintro ⟨length, same⟩
    rw [sameMembers_eq_all, List.all_eq_true] at same
    have distinct : (members.map fun member => (member.1, member.2.held)).Nodup := by
      apply List.Nodup.of_map Prod.fst
      rwa [names]
    have inside : (members.map fun member => (member.1, member.2.held)) ⊆
        others.map fun member => (member.1, member.2.held) := by
      intro held hh
      obtain ⟨⟨name, value⟩, hm, rfl⟩ := List.mem_map.mp hh
      have found := same _ hm
      cases ho : others.lookup name with
      | none => simp [ho] at found
      | some other =>
        have alike : value.same other = true := by simpa [ho] using found
        refine List.mem_map.mpr ⟨(name, other), mem_of_lookup ho, ?_⟩
        exact congrArg (name, ·) ((h _ hm _ (mem_of_lookup ho)).mp alike).symm
    refine sortByName_eq_of_perm ?_ (by rwa [names])
    apply (List.subperm_of_subset distinct inside).perm_of_length_le
    rw [List.length_map, List.length_map, length]
  · intro sorted
    have perm : (members.map fun member => (member.1, member.2.held)).Perm
        (others.map fun member => (member.1, member.2.held)) :=
      (sortByName_perm _).symm.trans (sorted ▸ sortByName_perm _)
    refine ⟨by simpa using perm.length_eq, ?_⟩
    rw [sameMembers_eq_all, List.all_eq_true]
    rintro ⟨name, value⟩ hm
    obtain ⟨⟨other_name, other⟩, ho, same⟩ :=
      List.mem_map.mp (perm.subset (List.mem_map_of_mem hm))
    obtain ⟨rfl, held⟩ := Prod.mk.inj same
    rw [lookup_of_nodup nodup' ho]
    exact (h _ hm _ ho).mpr held.symm

/-- Equality of values is equality of what is held. -/
theorem same_iff_held_eq {value other : Json} (apart : value.NamesApart)
    (apart' : other.NamesApart) : value.same other = true ↔ value.held = other.held := by
  induction value generalizing other with
  | null => cases other <;> simp [same, held, normal]
  | boolean b => cases other <;> simp [same, held, normal]
  | number n => cases other <;> simp [same, held, normal, JsonNumber.held_eq_iff]
  | string s => cases other <;> simp [same, held, normal]
  | list elements ih =>
    have inside := namesApart_list.mp apart
    cases other with
    | list others =>
      have inside' := namesApart_list.mp apart'
      have alike := sameElements_iff fun value hv other ho =>
        ih value hv (inside value hv) (inside' other ho)
      rw [same, alike, held, held, normal_list, normal_list, list.injEq]
      rfl
    | _ => simp [same, held, normal]
  | object members ih =>
    obtain ⟨nodup, inside⟩ := namesApart_object.mp apart
    cases other with
    | object others =>
      obtain ⟨nodup', inside'⟩ := namesApart_object.mp apart'
      have alike := sameMembers_iff nodup nodup' fun member hm other ho =>
        ih member.1 member.2 hm (inside _ _ hm) (inside' other.1 other.2 ho)
      rw [same, Bool.and_eq_true, beq_iff_eq, alike, held, held, normal_object, normal_object,
        object.injEq]
      rfl
    | _ => simp [same, held, normal]

end Json

end CheckedTypes
