import CheckedTypes.DecimalText
import CheckedTypes.Proofs.NearestNumber

namespace CheckedTypes

theorem pow_length_toDigits_le {n : Nat} (positive : 0 < n) :
    10 ^ ((Nat.toDigits 10 n).length - 1) ≤ n := by
  by_contra! less
  rcases Nat.eq_zero_or_pos ((Nat.toDigits 10 n).length - 1) with zero | more
  · rw [zero] at less
    omega
  · have := (Nat.length_toDigits_le_iff (by decide) more).mpr less
    omega

theorem lt_pow_length_toDigits (n : Nat) : n < 10 ^ (Nat.toDigits 10 n).length :=
  (Nat.length_toDigits_le_iff (by decide) Nat.length_toDigits_pos).mp le_rfl

theorem Binary64.steps_pos {x : Binary64} (nonzero : x.isZero = false) : 0 < x.steps := by
  simpa [isZero, Nat.pos_iff_ne_zero] using nonzero

namespace Decimal

theorem nearestSteps_congr {d e : Decimal}
    (same : d.fraction.1 * e.fraction.2 = e.fraction.1 * d.fraction.2) :
    d.nearestSteps = e.nearestSteps := by
  have positive (k : Nat) : 0 < Nat.pow 10 k := Nat.pow_pos (by decide)
  refine roundSignificand_congr (positive _) (positive _) ?_
  rw [Nat.mul_right_comm, same, Nat.mul_right_comm]

/-- Zeros at the end of the digits are as good as a greater exponent. -/
theorem nearestSteps_mul_pow (digits zeros : Nat) (exponent : Int) :
    nearestSteps ⟨digits * 10 ^ zeros, exponent⟩ = nearestSteps ⟨digits, exponent + zeros⟩ := by
  apply nearestSteps_congr
  show digits * 10 ^ zeros * 10 ^ exponent.toNat * 10 ^ (-(exponent + zeros)).toNat =
    digits * 10 ^ (exponent + zeros).toNat * 10 ^ (-exponent).toNat
  simp only [Nat.mul_assoc, ← Nat.pow_add]
  congr 2
  omega

theorem nearestSteps_dropZeros (fuel : Nat) (d : Decimal) :
    (d.dropZeros fuel).nearestSteps = d.nearestSteps := by
  induction fuel generalizing d with
  | zero => rfl
  | succ fuel ih =>
    rw [dropZeros]
    split
    next ends =>
      have digits : d.digits = d.digits / 10 * 10 ^ 1 := by omega
      rw [ih]
      conv_rhs => rw [show d = ⟨d.digits, d.exponent⟩ from rfl, digits, nearestSteps_mul_pow]
      rfl
    next => rfl

/-- A positive number of steps has as many digits before the point, or zeros behind it, as its
magnitude says. -/
theorem magnitude_le {steps : Nat} (positive : 0 < steps) :
    10 ^ (magnitude steps - 1).toNat * stepsPerUnit ≤ steps * 10 ^ (1 - magnitude steps).toNat := by
  unfold magnitude
  split
  next whole =>
    have quotient : 0 < steps / stepsPerUnit := Nat.div_pos whole stepsPerUnit_pos
    have digits := pow_length_toDigits_le quotient
    have length := Nat.length_toDigits_pos (b := 10) (n := steps / stepsPerUnit)
    generalize (Nat.toDigits 10 (steps / stepsPerUnit)).length = count at digits length
    rw [show ((count : Int) - 1).toNat = count - 1 by omega,
      show (1 - (count : Int)).toNat = 0 by omega, Nat.pow_zero, Nat.mul_one]
    exact (Nat.le_div_iff_mul_le stepsPerUnit_pos).mp digits
  next =>
    have digits := lt_pow_length_toDigits ((stepsPerUnit - 1) / steps)
    generalize (Nat.toDigits 10 ((stepsPerUnit - 1) / steps)).length = count at digits
    rw [show (1 - (count : Int) - 1).toNat = 0 by omega,
      show (1 - (1 - (count : Int))).toNat = count by omega, Nat.pow_zero, Nat.one_mul,
      Nat.mul_comm]
    have := (Nat.div_lt_iff_lt_mul positive).mp digits
    omega

/-- The digits down to the sixteenth behind the first make up a number of at least seventeen
digits. -/
theorem scaled_ge {steps : Nat} (positive : 0 < steps) :
    10 ^ 16 * (stepsPerUnit * 10 ^ (magnitude steps - 17).toNat) ≤
      steps * 10 ^ (-(magnitude steps - 17)).toNat := by
  have h := Nat.mul_le_mul_right (10 ^ (-(magnitude steps - 17)).toNat) (magnitude_le positive)
  generalize magnitude steps = power at h
  have exponents : 16 + (power - 17).toNat + (1 - power).toNat =
      (power - 1).toNat + (-(power - 17)).toNat := by omega
  have powers := congrArg (10 ^ ·) exponents
  simp only [Nat.pow_add] at powers
  apply Nat.le_of_mul_le_mul_right (c := 10 ^ (1 - power).toNat) _ (Nat.pow_pos (by decide))
  calc 10 ^ 16 * (stepsPerUnit * 10 ^ (power - 17).toNat) * 10 ^ (1 - power).toNat
      = stepsPerUnit * (10 ^ 16 * 10 ^ (power - 17).toNat * 10 ^ (1 - power).toNat) := by ring
    _ = 10 ^ (power - 1).toNat * stepsPerUnit * 10 ^ (-(power - 17)).toNat := by
      rw [powers]; ring
    _ ≤ _ := h
    _ = _ := by ring

theorem ofCount?_reads {half : HalfRule} {steps count : Nat} {d : Decimal}
    (h : ofCount? half steps count = some d) : d.nearestSteps = steps := by
  simpa using List.find?_some h

theorem nearestSteps_mk (digits : Nat) (exponent : Int) :
    nearestSteps ⟨digits, exponent⟩ = roundSignificand
      (stepsPerUnit * 10 ^ exponent.toNat * digits) (10 ^ (-exponent).toNat) := by
  show roundSignificand (digits * 10 ^ exponent.toNat * stepsPerUnit) _ = _
  rw [Nat.mul_comm, Nat.mul_comm digits, Nat.mul_assoc]
  rfl

/-- Seventeen digits are enough. -/
theorem ofCount?_isSome (half : HalfRule) {steps : Nat} (short : HasShortSignificand steps)
    (positive : 0 < steps) : (ofCount? half steps 17).isSome := by
  have power (k : Nat) : 0 < 10 ^ k := Nat.pow_pos (by decide)
  rw [ofCount?, List.find?_isSome]
  rcases roundSignificand_neighbour short (Nat.mul_pos positive (power _))
    (Nat.mul_pos stepsPerUnit_pos (power _)) (scaled_ge positive) with reads | reads
  · refine ⟨⟨_, _⟩, ?_, beq_iff_eq.mpr ((nearestSteps_mk ..).trans reads)⟩
    split
    next => exact List.mem_cons_self
    next => exact List.mem_cons_of_mem _ List.mem_cons_self
  · refine ⟨⟨_, _⟩, ?_, beq_iff_eq.mpr ((nearestSteps_mk ..).trans reads)⟩
    split
    next => exact List.mem_cons_of_mem _ List.mem_cons_self
    next => exact List.mem_cons_self

/-- The shortest text reads back. -/
theorem nearestSteps_shortest (half : HalfRule) {steps : Nat} (short : HasShortSignificand steps)
    (positive : 0 < steps) : (shortest half steps).nearestSteps = steps := by
  have found : ((List.range 17).findSome? fun n => ofCount? half steps (n + 1)).isSome := by
    rw [List.findSome?_isSome_iff]
    exact ⟨16, by simp, ofCount?_isSome half short positive⟩
  obtain ⟨d, hd⟩ := Option.isSome_iff_exists.mp found
  obtain ⟨count, _, hc⟩ := List.exists_of_findSome?_eq_some hd
  rw [shortest, nearestSteps_dropZeros, hd]
  exact ofCount?_reads hc

theorem nearestSteps_zero (exponent : Int) : nearestSteps ⟨0, exponent⟩ = 0 := by
  simp [nearestSteps, fraction, roundSignificand, roundDiv]

theorem digits_shortest_pos (half : HalfRule) {steps : Nat} (short : HasShortSignificand steps)
    (positive : 0 < steps) : 0 < (shortest half steps).digits := by
  have reads := nearestSteps_shortest half short positive
  by_contra! none
  have zero : shortest half steps = ⟨0, (shortest half steps).exponent⟩ := by
    rw [← Nat.le_zero.mp none]
  rw [zero, nearestSteps_zero] at reads
  omega

end Decimal

end CheckedTypes
