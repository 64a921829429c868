import CheckedTypes.JsonReader
import CheckedTypes.Proofs.MemberInsertion
import CheckedTypes.Proofs.TableLookup

namespace CheckedTypes

namespace Json

/-- Induction over values: what holds of the elements of a list and of the members of an object
holds of the whole. -/
@[induction_eliminator]
theorem induct {motive : Json → Prop} (null : motive .null) (boolean : ∀ b, motive (.boolean b))
    (number : ∀ n, motive (.number n)) (string : ∀ s, motive (.string s))
    (list : ∀ elements, (∀ element ∈ elements, motive element) → motive (.list elements))
    (object : ∀ members, (∀ name value, (name, value) ∈ members → motive value) →
      motive (.object members)) : ∀ value, motive value
  | .null => null
  | .boolean b => boolean b
  | .number n => number n
  | .string s => string s
  | .list elements => list elements fun element _ =>
      induct null boolean number string list object element
  | .object members => object members fun _ value _ =>
      induct null boolean number string list object value
termination_by value => sizeOf value
decreasing_by
  · next inside =>
    have := List.sizeOf_lt_of_mem inside
    simp
    omega
  · next inside =>
    have := List.sizeOf_lt_of_mem inside
    simp at this ⊢
    omega

/-- A value stands in another at some depth. -/
inductive Within (part : Json) : Json → Prop
  | here : Within part part
  | element {elements element} : element ∈ elements → Within part element →
      Within part (.list elements)
  | member {members name value} : (name, value) ∈ members → Within part value →
      Within part (.object members)

/-- In every object the members have names of their own. -/
def NamesApart (value : Json) : Prop :=
  ∀ members, (object members).Within value → (members.map Prod.fst).Nodup

theorem namesApart_list {elements : List Json} :
    (list elements).NamesApart ↔ ∀ element ∈ elements, element.NamesApart := by
  constructor
  · intro h element hm members hw
    exact h members (.element hm hw)
  · intro h members hw
    cases hw with
    | element hm hw => exact h _ hm members hw

theorem namesApart_object {members : List (String × Json)} :
    (object members).NamesApart ↔ (members.map Prod.fst).Nodup ∧
      ∀ name value, (name, value) ∈ members → value.NamesApart := by
  constructor
  · intro h
    exact ⟨h members .here, fun name value hm inner hw => h inner (.member hm hw)⟩
  · rintro ⟨nodup, inside⟩ inner hw
    cases hw with
    | here => exact nodup
    | member hm hw => exact inside _ _ hm inner hw

end Json

/-- An object is complete, or it stops inside its last member. -/
def ObjectEnding.Whole : ObjectEnding → Prop
  | closed | cut => True
  | _ => False

namespace JsonSource

/-- Induction over texts: what holds of the elements of a list and of the members of an object holds
of the whole. -/
@[induction_eliminator]
theorem induct {motive : JsonSource → Prop} (null : motive .null)
    (boolean : ∀ b, motive (.boolean b)) (number : ∀ n, motive (.number n))
    (string : ∀ s, motive (.string s))
    (list : ∀ elements ending, (∀ element ∈ elements, motive element) →
      motive (.list elements ending))
    (object : ∀ members ending, (∀ name member, (name, member) ∈ members → motive member) →
      motive (.object members ending))
    (broken : ∀ stop, motive (.broken stop)) : ∀ source, motive source
  | .null => null
  | .boolean b => boolean b
  | .number n => number n
  | .string s => string s
  | .list elements ending => list elements ending fun element _ =>
      induct null boolean number string list object broken element
  | .object members ending => object members ending fun _ member _ =>
      induct null boolean number string list object broken member
  | .broken stop => broken stop
termination_by source => sizeOf source
decreasing_by
  · next inside =>
    have := List.sizeOf_lt_of_mem inside
    simp
    omega
  · next inside =>
    have := List.sizeOf_lt_of_mem inside
    simp at this ⊢
    omega

theorem ofElements_eq_map (elements : List Json) : ofElements elements = elements.map ofValue := by
  induction elements with
  | nil => rfl
  | cons first rest ih => rw [ofElements, ih, List.map_cons]

theorem ofMembers_eq_map (members : List (String × Json)) :
    ofMembers members = members.map fun member => (.ok member.1, ofValue member.2) := by
  induction members with
  | nil => rfl
  | cons member rest ih =>
    obtain ⟨name, value⟩ := member
    rw [ofMembers, ih, List.map_cons]

section

variable {budget : DepthBudget}

/-- The elements of a list that is read are read one by one. -/
theorem elementValues_eq_ok_iff {index : Nat} {elements : List JsonSource} {ending : ListEnding}
    {values : List Json} :
    elementValues budget index elements ending = .ok values ↔
      (∀ stop, ending ≠ .broken stop) ∧
        List.Forall₂ (fun element value => element.value budget = .ok value) elements values := by
  induction elements generalizing index values with
  | nil => cases ending <;> simp [elementValues, eq_comm]
  | cons element rest ih =>
    rw [elementValues]
    constructor
    · intro h
      split at h
      next => cases h
      next first hf =>
        obtain ⟨others, ho, rfl⟩ := exists_of_map_eq_ok h
        obtain ⟨whole, each⟩ := ih.mp ho
        exact ⟨whole, .cons hf each⟩
    · rintro ⟨whole, each⟩
      cases each with
      | @cons _ first _ others hf each =>
        rw [hf]
        dsimp only
        rw [ih.mpr ⟨whole, each⟩]
        rfl

/-- The members of an object that is read are read one by one, each under a name. -/
theorem memberValues_eq_ok_iff {before : List (String × Json)}
    {members : List (Except JsonFault String × JsonSource)} {ending : ObjectEnding}
    {values : List (String × Json)} :
    memberValues budget before members ending = .ok values ↔ ending.Whole ∧ ∃ named,
      List.Forall₂ (fun member entry =>
        member.1 = .ok entry.1 ∧ member.2.value budget = .ok entry.2) members named ∧
      values = insertMembers before named := by
  induction members generalizing before with
  | nil =>
    rcases ending with _ | _ | _ | ⟨_ | _, _⟩ <;>
      simp [memberValues, ObjectEnding.Whole, insertMembers, eq_comm]
  | cons member rest ih =>
    obtain ⟨name, source⟩ := member
    cases name with
    | error fault =>
      simp only [memberValues, reduceCtorEq, false_iff, not_and, not_exists]
      rintro - named ⟨⟩
      next same _ => cases same.1
    | ok name =>
      rw [memberValues]
      constructor
      · intro h
        split at h
        next => cases h
        next value hv =>
          obtain ⟨whole, named, each, rfl⟩ := ih.mp h
          exact ⟨whole, (name, value) :: named, .cons ⟨rfl, hv⟩ each, rfl⟩
      · rintro ⟨whole, named, each, rfl⟩
        cases each with
        | @cons _ entry _ others first each =>
          obtain ⟨_, value⟩ := entry
          obtain ⟨same, hv⟩ := first
          cases same
          rw [hv]
          exact ih.mpr ⟨whole, others, each, rfl⟩

variable {source : JsonSource} {elements : List JsonSource} {ending : ListEnding}
  {members : List (Except JsonFault String × JsonSource)} {last : ObjectEnding} {read : Json}

theorem value_list_eq_ok_iff : (list elements ending).value budget = .ok read ↔
    ∃ inner values, budget.enter? = some inner ∧ read = .list values ∧
      (∀ stop, ending ≠ .broken stop) ∧
      List.Forall₂ (fun element value => element.value inner = .ok value) elements values := by
  rw [value]
  constructor
  · intro h
    split at h
    next => cases h
    next inner hi =>
      obtain ⟨values, hv, rfl⟩ := exists_of_map_eq_ok h
      obtain ⟨whole, each⟩ := elementValues_eq_ok_iff.mp hv
      exact ⟨inner, values, hi, rfl, whole, each⟩
  · rintro ⟨inner, values, hi, rfl, whole, each⟩
    rw [hi]
    dsimp only
    rw [elementValues_eq_ok_iff.mpr ⟨whole, each⟩]
    rfl

theorem value_object_eq_ok_iff : (object members last).value budget = .ok read ↔
    ∃ inner named, budget.enter? = some inner ∧ read = .object (insertMembers [] named) ∧
      last.Whole ∧ List.Forall₂ (fun member entry =>
        member.1 = .ok entry.1 ∧ member.2.value inner = .ok entry.2) members named := by
  rw [value]
  constructor
  · intro h
    split at h
    next => cases h
    next inner hi =>
      obtain ⟨values, hv, rfl⟩ := exists_of_map_eq_ok h
      obtain ⟨whole, named, each, rfl⟩ := memberValues_eq_ok_iff.mp hv
      exact ⟨inner, named, hi, rfl, whole, each⟩
  · rintro ⟨inner, named, hi, rfl, whole, each⟩
    rw [hi]
    dsimp only
    rw [memberValues_eq_ok_iff.mpr ⟨whole, named, each, rfl⟩]
    rfl

/-- Of members of one name only one is left. -/
theorem namesApart_of_value (h : source.value budget = .ok read) : read.NamesApart := by
  induction source generalizing budget read with
  | null | boolean =>
    cases h
    rintro members ⟨⟩
  | number n =>
    cases n <;> cases h
    rintro members ⟨⟩
  | string s =>
    cases s <;> cases h
    rintro members ⟨⟩
  | broken stop => cases h
  | list elements ending ih =>
    obtain ⟨inner, values, -, rfl, -, each⟩ := value_list_eq_ok_iff.mp h
    rw [Json.namesApart_list]
    intro value hm
    obtain ⟨element, he, hv⟩ := exists_left_of_forall₂ each hm
    exact ih element he hv
  | object members last ih =>
    obtain ⟨inner, named, -, rfl, -, each⟩ := value_object_eq_ok_iff.mp h
    rw [Json.namesApart_object]
    refine ⟨nodup_insertMembers List.nodup_nil, fun name value hm => ?_⟩
    have listed : (name, value) ∈ named := (mem_insertMembers hm).resolve_left List.not_mem_nil
    obtain ⟨⟨label, member⟩, hm, -, hv⟩ := exists_left_of_forall₂ each listed
    exact ih label member hm hv

end

/-- A value that is written out is read back. -/
theorem value_ofValue {value : Json} (apart : value.NamesApart) :
    (ofValue value).value none = .ok value := by
  induction value with
  | null | boolean | number | string => rfl
  | list elements ih =>
    rw [Json.namesApart_list] at apart
    rw [ofValue, ofElements_eq_map, value_list_eq_ok_iff]
    refine ⟨none, elements, rfl, rfl, nofun, ?_⟩
    rw [List.forall₂_map_left_iff, List.forall₂_same]
    exact fun element hm => ih element hm (apart element hm)
  | object members ih =>
    obtain ⟨nodup, apart⟩ := Json.namesApart_object.mp apart
    rw [ofValue, ofMembers_eq_map, value_object_eq_ok_iff]
    refine ⟨none, members, rfl, ?_, trivial, ?_⟩
    · rw [insertMembers_of_nodup (by rwa [List.nil_append]), List.nil_append]
    · rw [List.forall₂_map_left_iff, List.forall₂_same]
      exact fun member hm => ⟨rfl, ih member.1 member.2 hm (apart member.1 member.2 hm)⟩

theorem skipElements?_eq_none {elements : List JsonSource}
    (h : ∀ element ∈ elements, element.skipFault? = none) : skipElements? elements = none := by
  induction elements with
  | nil => rfl
  | cons first rest ih =>
    obtain ⟨here, behind⟩ := List.forall_mem_cons.mp h
    rw [skipElements?, here]
    exact ih behind

theorem skipMembers?_eq_none {members : List (Except JsonFault String × JsonSource)}
    (h : ∀ member ∈ members, member.2.skipFault? = none) : skipMembers? members = none := by
  induction members with
  | nil => rfl
  | cons first rest ih =>
    obtain ⟨here, behind⟩ := List.forall_mem_cons.mp h
    obtain ⟨name, source⟩ := first
    rw [skipMembers?, here]
    exact ih behind

/-- A value can be skipped. -/
theorem skipFault?_ofValue (value : Json) : (ofValue value).skipFault? = none := by
  induction value with
  | null | boolean | number | string => rfl
  | list elements ih =>
    have inside : skipElements? (elements.map ofValue) = none :=
      skipElements?_eq_none (List.forall_mem_map.mpr ih)
    simp [ofValue, ofElements_eq_map, skipFault?, inside]
  | object members ih =>
    have inside :
        skipMembers? (members.map fun member => (.ok member.1, ofValue member.2)) = none :=
      skipMembers?_eq_none (List.forall_mem_map.mpr fun member hm => ih member.1 member.2 hm)
    simp [ofValue, ofMembers_eq_map, skipFault?, inside]

end JsonSource

namespace Json

theorem value_of_ofText {text : String} {value : Json} (h : Json.ofText text = .ok value) :
    (JsonSource.ofSymbols (symbolsOfText text)).value DepthBudget.ofText = .ok value := by
  rw [ofText, ofSymbols] at h
  rw [JsonSource.ofSymbols]
  split at h
  next source remainder hr =>
    rw [hr]
    dsimp only
    split at h
    next => cases h
    next found hv =>
      split at h
      next =>
        cases h
        exact hv
      next =>
        split at h
        next =>
          cases h
          exact hv
        next => cases h

/-- The value that a text makes up has no two members of one name. -/
theorem namesApart_of_ofText {text : String} {value : Json} (h : Json.ofText text = .ok value) :
    value.NamesApart :=
  JsonSource.namesApart_of_value (value_of_ofText h)

end Json

end CheckedTypes
