import CheckedTypes.DocumentType
import CheckedTypes.Proofs.Validity
import Mathlib

namespace CheckedTypes

theorem stepsPerUnit_pos : 0 < stepsPerUnit := by
  decide +kernel

theorem stepsPerUnit_cast_pos : (0 : ℚ) < stepsPerUnit :=
  Nat.cast_pos.mpr stepsPerUnit_pos

theorem stepsPerUnit_ne_zero : (stepsPerUnit : ℚ) ≠ 0 :=
  stepsPerUnit_cast_pos.ne'

namespace Binary64

/-- The number that is held. -/
def value (x : Binary64) : ℚ :=
  x.toInt / stepsPerUnit

theorem value_lt_iff {x y : Binary64} : x.value < y.value ↔ x < y := by
  rw [value, value, div_lt_div_iff_of_pos_right stepsPerUnit_cast_pos, Int.cast_lt]
  rfl

theorem value_le_iff {x y : Binary64} : x.value ≤ y.value ↔ x ≤ y := by
  rw [← not_lt, value_lt_iff]
  exact Int.not_lt

end Binary64

/-- The integer part of a number, cut towards zero. -/
def integerPart (x : ℚ) : ℤ :=
  if 0 ≤ x then ⌊x⌋ else ⌈x⌉

theorem integerPart_intCast (n : ℤ) : integerPart n = n := by
  unfold integerPart
  split
  next => exact Int.floor_intCast n
  next => exact Int.ceil_intCast n

/-- What a division leaves whose quotient is cut to an integer. -/
def remainder (x divisor : ℚ) : ℚ :=
  x - divisor * integerPart (x / divisor)

/-- A division leaves nothing exactly if the quotient is an integer. -/
theorem remainder_eq_zero_iff {x divisor : ℚ} (h : divisor ≠ 0) :
    remainder x divisor = 0 ↔ ∃ quotient : ℤ, x = divisor * quotient := by
  constructor
  · intro none
    exact ⟨_, sub_eq_zero.mp none⟩
  · rintro ⟨quotient, rfl⟩
    rw [remainder, mul_div_cancel_left₀ _ h, integerPart_intCast, sub_self]

theorem Binary64.isMultiple_iff {divisor x : Binary64} :
    divisor.IsMultiple x ↔ divisor.value ≠ 0 ∧ remainder x.value divisor.value = 0 := by
  have zero : divisor.value ≠ 0 ↔ divisor.toInt ≠ 0 := by
    rw [value, Ne, div_eq_zero_iff, or_iff_left stepsPerUnit_ne_zero, Int.cast_eq_zero]
  rw [IsMultiple, ← zero]
  refine and_congr_right fun some => ?_
  rw [remainder_eq_zero_iff some]
  refine exists_congr fun quotient => ?_
  rw [value, value, div_mul_eq_mul_div, div_left_inj' stepsPerUnit_ne_zero]
  exact_mod_cast Iff.rfl

namespace NumericKeywords

/-- A number is kept in on one side by each of two keywords. A mark says how the bound beside it is
to be read, and nothing where there is none. -/
structure KeepsSide (inclusive : Option Binary64) (exclusive : Option Exclusive)
    (reaches exceeds : Binary64 → Prop) : Prop where
  bounded : ∀ bound, inclusive = some bound → reaches bound
  marked : exclusive = some (.flag true) → ∀ bound, inclusive = some bound → exceeds bound
  excluded : ∀ bound, exclusive = some (.bound bound) → exceeds bound

/-- A number satisfies every keyword by itself. -/
structure Satisfied (keywords : NumericKeywords) (x : ℚ) : Prop where
  minimum : KeepsSide keywords.minimum keywords.exclusiveMinimum
    (fun bound => bound.value ≤ x) (fun bound => bound.value < x)
  maximum : KeepsSide keywords.maximum keywords.exclusiveMaximum
    (fun bound => x ≤ bound.value) (fun bound => x < bound.value)
  /-- A division by zero leaves nothing that could be zero. -/
  multipleOf : ∀ divisor, keywords.multipleOf = some divisor →
    divisor.value ≠ 0 ∧ remainder x divisor.value = 0

/-- The bound that two keywords make keeps in what both of them keep in, if the stricter bound is
the one that is harder to reach. -/
theorem bound_iff (stricter : Binary64 → Binary64 → Bool) (reaches exceeds : Binary64 → Prop)
    (weaken : ∀ bound, exceeds bound → reaches bound)
    (above : ∀ a b, stricter a b = true → reaches a → exceeds b)
    (below : ∀ a b, stricter a b = false → exceeds b → reaches a)
    (inclusive : Option Binary64) (exclusive : Option Exclusive) :
    (∀ merged, bound stricter inclusive exclusive = some merged →
      exceeds merged.value ∨ reaches merged.value ∧ merged.exclusive = false) ↔
    KeepsSide inclusive exclusive reaches exceeds := by
  have parts : KeepsSide inclusive exclusive reaches exceeds ↔
      (∀ bound, inclusive = some bound → reaches bound) ∧
        (exclusive = some (.flag true) → ∀ bound, inclusive = some bound → exceeds bound) ∧
        ∀ bound, exclusive = some (.bound bound) → exceeds bound :=
    ⟨fun ⟨a, b, c⟩ => ⟨a, b, c⟩, fun ⟨a, b, c⟩ => ⟨a, b, c⟩⟩
  rw [parts]
  cases inclusive with
  | none =>
    cases exclusive with
    | none => simp [bound]
    | some exclusive => cases exclusive <;> simp [bound]
  | some first =>
    have implied := weaken first
    cases exclusive with
    | none => simpa [bound] using implied
    | some exclusive =>
      cases exclusive with
      | flag marked => cases marked <;> simpa [bound] using implied
      | bound second =>
        cases order : stricter first second with
        | true =>
          have passes := above first second order
          simp only [bound, order, if_true, Option.some.injEq, forall_eq', and_true,
            reduceCtorEq, Exclusive.bound.injEq, false_imp_iff, true_and]
          constructor
          · intro kept
            have reached := kept.elim implied id
            exact ⟨reached, passes reached⟩
          · exact fun kept => .inr kept.1
        | false =>
          have passes := below first second order
          simp only [bound, order, if_false, Option.some.injEq, forall_eq', Bool.false_eq_true,
            reduceCtorEq, Exclusive.bound.injEq, false_imp_iff, true_and, and_false, or_false]
          exact ⟨fun exceeds => ⟨passes exceeds, exceeds⟩, And.right⟩

end NumericKeywords

/-- Bounds that are merged mean what the keywords mean one by one. -/
theorem SchemaDocument.numeric_admits_iff (document : SchemaDocument) (x : Binary64) :
    document.numeric.constraints.admits x = true ↔ document.numeric.Satisfied x.value := by
  have least := NumericKeywords.bound_iff (fun a b => b < a) (fun bound => bound.value ≤ x.value)
    (fun bound => bound.value < x.value)
    (fun _ => le_of_lt)
    (fun a b order => (Binary64.value_lt_iff.mpr (of_decide_eq_true order)).trans_le)
    (fun a b order exceeds =>
      (not_lt.mp (mt Binary64.value_lt_iff.mp (of_decide_eq_false order))).trans exceeds.le)
    document.numeric.minimum document.numeric.exclusiveMinimum
  have most := NumericKeywords.bound_iff (fun a b => a < b) (fun bound => x.value ≤ bound.value)
    (fun bound => x.value < bound.value)
    (fun _ => le_of_lt)
    (fun a b order reaches => reaches.trans_lt (Binary64.value_lt_iff.mpr (of_decide_eq_true order)))
    (fun a b order exceeds =>
      exceeds.le.trans (not_lt.mp (mt Binary64.value_lt_iff.mp (of_decide_eq_false order))))
    document.numeric.maximum document.numeric.exclusiveMaximum
  rw [NumericConstraints.admits_iff]
  constructor
  · rintro ⟨minimum, maximum, multipleOf⟩
    simp only [← Binary64.value_lt_iff, ← Binary64.value_le_iff] at minimum maximum
    exact ⟨least.mp minimum, most.mp maximum, fun divisor hd =>
      Binary64.isMultiple_iff.mp (multipleOf divisor hd)⟩
  · rintro ⟨minimum, maximum, multipleOf⟩
    have minimum := least.mpr minimum
    have maximum := most.mpr maximum
    simp only [Binary64.value_lt_iff, Binary64.value_le_iff] at minimum maximum
    exact ⟨minimum, maximum, fun divisor hd => Binary64.isMultiple_iff.mpr (multipleOf divisor hd)⟩

end CheckedTypes
