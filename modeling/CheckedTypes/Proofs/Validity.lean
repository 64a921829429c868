import CheckedTypes.Proofs.CheckedParts

namespace CheckedTypes

/-- The number has no fraction. -/
def Binary64.IsInteger (x : Binary64) : Prop :=
  (stepsPerUnit : Int) ∣ x.toInt

/-- The number is an integer times the divisor, which is not zero. -/
def Binary64.IsMultiple (divisor x : Binary64) : Prop :=
  divisor.toInt ≠ 0 ∧ divisor.toInt ∣ x.toInt

/-- The number keeps both bounds and is a multiple of the divisor, as far as they are given. -/
structure NumericConstraints.Hold (constraints : NumericConstraints) (x : Binary64) : Prop where
  minimum : ∀ bound, constraints.minimum = some bound →
    bound.value < x ∨ bound.value ≤ x ∧ bound.exclusive = false
  maximum : ∀ bound, constraints.maximum = some bound →
    x < bound.value ∨ x ≤ bound.value ∧ bound.exclusive = false
  multipleOf : ∀ divisor, constraints.multipleOf = some divisor → divisor.IsMultiple x

/-- The number of characters is within bounds and the pattern matches. -/
structure StringConstraints.Hold (constraints : StringConstraints) (text : String) : Prop where
  minLength : ∀ count, constraints.minLength = some count → count ≤ text.toList.length
  maxLength : ∀ count, constraints.maxLength = some count → text.toList.length ≤ count
  pattern : ∀ pattern, constraints.pattern = some pattern →
    ∃ regex, Regex.ofText? pattern = some regex ∧ regex.isMatch text = true

/-- The number of elements is within bounds and, if asked for, no element equals an earlier one. -/
structure ArrayConstraints.Hold (constraints : ArrayConstraints) (elements : List Json) :
    Prop where
  minItems : ∀ count, constraints.minItems = some count → count ≤ elements.length
  maxItems : ∀ count, constraints.maxItems = some count → elements.length ≤ count
  uniqueItems : constraints.uniqueItems = true →
    elements.Pairwise fun earlier later => later.same earlier = false

/-- The values of a type. -/
inductive Valid (table : TypeTable) : TypeNode → Json → Prop
  | null : Valid table .null .null
  | boolean {b} : Valid table .boolean (.boolean b)
  | integer {constraints value x} : value.asBinary64? = some x → x.IsInteger →
      constraints.Hold x → Valid table (.integer constraints) value
  | number {constraints value x} : value.asBinary64? = some x → constraints.Hold x →
      Valid table (.number constraints) value
  | string {constraints text} : constraints.Hold text →
      Valid table (.string constraints) (.string text)
  | array {items additionalItems constraints elements} : constraints.Hold elements →
      (∀ value ∈ elements, Valid table items value) →
      Valid table (.array (some items) additionalItems constraints) (.list elements)
  /-- A property that is not required may be null instead, and members that are not declared may be
  anything. -/
  | object {properties required members} :
      (∀ name ∈ required.getD [], name ∈ properties.map Prod.fst →
        name ∈ members.map Prod.fst) →
      (∀ name node value, properties.lookup name = some node →
        members.lookup name = some value →
        ¬(value = .null ∧ name ∉ required.getD []) → Valid table node value) →
      Valid table (.object properties required) (.object members)
  | enumeration {values text} : text ∈ values →
      Valid table (.enumeration values) (.string text)
  | reference {pointer entry value} : table.resolve pointer = .ok entry →
      Valid table entry.node value → Valid table (.reference pointer) value

theorem Binary64.natAbs_toInt (x : Binary64) : x.toInt.natAbs = x.steps := by
  unfold toInt
  split <;> simp

theorem Binary64.isIntegral_iff {x : Binary64} : x.isIntegral = true ↔ x.IsInteger := by
  rw [isIntegral, IsInteger, beq_iff_eq, ← Nat.dvd_iff_mod_eq_zero, ← Int.natAbs_dvd_natAbs,
    natAbs_toInt, Int.natAbs_natCast]

theorem Binary64.isMultipleOf_iff {x divisor : Binary64} :
    x.isMultipleOf divisor = true ↔ divisor.IsMultiple x := by
  rw [isMultipleOf, IsMultiple, ← Int.natAbs_dvd_natAbs, natAbs_toInt, natAbs_toInt, Ne,
    ← Int.natAbs_eq_zero, natAbs_toInt]
  simp [isZero, Nat.dvd_iff_mod_eq_zero]

theorem Bound.admitsAbove_iff {bound : Bound} {x : Binary64} :
    bound.admitsAbove x = true ↔ bound.value < x ∨ bound.value ≤ x ∧ bound.exclusive = false := by
  have weaken : bound.value < x → bound.value ≤ x := Int.le_of_lt
  cases he : bound.exclusive with
  | false => simpa [admitsAbove, he] using weaken
  | true => simp [admitsAbove, he]

theorem Bound.admitsBelow_iff {bound : Bound} {x : Binary64} :
    bound.admitsBelow x = true ↔ x < bound.value ∨ x ≤ bound.value ∧ bound.exclusive = false := by
  have weaken : x < bound.value → x ≤ bound.value := Int.le_of_lt
  cases he : bound.exclusive with
  | false => simpa [admitsBelow, he] using weaken
  | true => simp [admitsBelow, he]

theorem NumericConstraints.admits_iff {constraints : NumericConstraints} {x : Binary64} :
    constraints.admits x = true ↔ constraints.Hold x := by
  simp only [admits, Bool.and_eq_true, Option.all_eq_true, Bound.admitsAbove_iff,
    Bound.admitsBelow_iff, Binary64.isMultipleOf_iff]
  exact ⟨fun ⟨⟨h, h'⟩, h''⟩ => ⟨h, h', h''⟩, fun ⟨h, h', h''⟩ => ⟨⟨h, h'⟩, h''⟩⟩

/-- The check of the length is all but the pattern. -/
theorem StringConstraints.admitsLength_iff {constraints : StringConstraints} {text : String} :
    constraints.admitsLength text = true ↔ { constraints with pattern := none }.Hold text := by
  simp only [admitsLength, Bool.and_eq_true, Option.all_eq_true, decide_eq_true_eq,
    ← String.length_toList]
  exact ⟨fun ⟨least, most⟩ => ⟨least, most, by simp⟩, fun h => ⟨h.minLength, h.maxLength⟩⟩

theorem allDistinct_iff {earlier elements : List Json} :
    allDistinct earlier elements = true ↔
      (∀ value ∈ elements, ∀ other ∈ earlier, value.same other = false) ∧
        elements.Pairwise fun earlier later => later.same earlier = false := by
  induction elements generalizing earlier with
  | nil => simp [allDistinct]
  | cons value rest ih =>
    simp only [allDistinct, Bool.and_eq_true, ih, List.pairwise_cons, List.mem_append,
      List.mem_singleton, List.forall_mem_cons, Bool.not_eq_true', List.any_eq_false]
    constructor
    · rintro ⟨first, others, apart⟩
      exact ⟨⟨fun other hm => by simpa using first other hm,
        fun later hl other hm => others later hl other (.inl hm)⟩,
        fun later hl => others later hl value (.inr rfl), apart⟩
    · rintro ⟨⟨first, others⟩, next, apart⟩
      refine ⟨fun other hm => by simpa using first other hm, ?_, apart⟩
      rintro later hl other (hm | rfl)
      · exact others later hl other hm
      · exact next later hl

theorem ArrayConstraints.admits_iff {constraints : ArrayConstraints} {elements : List Json} :
    constraints.admits elements = true ↔ constraints.Hold elements := by
  simp only [admits, Bool.and_eq_true, Option.all_eq_true, decide_eq_true_eq, Bool.or_eq_true,
    Bool.not_eq_true', allDistinct_iff]
  constructor
  · rintro ⟨⟨least, most⟩, unique⟩
    refine ⟨least, most, fun asked => ?_⟩
    simpa [asked] using unique
  · rintro ⟨least, most, unique⟩
    refine ⟨⟨least, most⟩, ?_⟩
    cases asked : constraints.uniqueItems with
    | false => exact .inl rfl
    | true => exact .inr ⟨by simp, unique asked⟩

end CheckedTypes
