import CheckedTypes.Proofs.KeywordBounds

namespace CheckedTypes

theorem roundDiv_cases (num den : Nat) :
    roundDiv num den = num / den ∧ 2 * (num % den) ≤ den ∨
      roundDiv num den = num / den + 1 ∧ den ≤ 2 * (num % den) := by
  unfold roundDiv
  dsimp only
  split
  next below => exact .inl ⟨rfl, below.le⟩
  next reaches =>
    split
    next above => exact .inr ⟨rfl, above.le⟩
    next below =>
      rcases Nat.mod_two_eq_zero_or_one (num / den) with even | odd
      · exact .inl ⟨by omega, by omega⟩
      · exact .inr ⟨by omega, by omega⟩

theorem le_roundDiv (num den : Nat) : num / den ≤ roundDiv num den := by
  rcases roundDiv_cases num den with ⟨h, _⟩ | ⟨h, _⟩ <;> omega

theorem mul_add_le_of_lt {m n : Nat} (den : Nat) (less : m < n) : m * den + den ≤ n * den :=
  (Nat.succ_mul m den).symm.trans_le (Nat.mul_le_mul_right den less)

/-- A quotient less than half away from an integer goes there. -/
theorem roundDiv_eq_of_near {num den n : Nat} (above : 2 * num < 2 * (n * den) + den)
    (below : 2 * (n * den) < 2 * num + den) : roundDiv num den = n := by
  have positive : 0 < den := by omega
  have split := Nat.div_add_mod num den
  have rest := Nat.mod_lt num positive
  rw [Nat.mul_comm] at split
  have lower : num / den ≤ n := by
    by_contra! more
    have := mul_add_le_of_lt den more
    omega
  have upper : n ≤ num / den + 1 := by
    by_contra! more
    have := mul_add_le_of_lt den more
    rw [Nat.succ_mul] at this
    omega
  rcases Nat.lt_or_ge (num / den) n with less | equal
  · obtain rfl : n = num / den + 1 := by omega
    rw [Nat.add_one_mul (num / den)] at above below
    rcases roundDiv_cases num den with ⟨_, near⟩ | ⟨h, _⟩
    · omega
    · exact h
  · obtain rfl : n = num / den := by omega
    rcases roundDiv_cases num den with ⟨h, _⟩ | ⟨_, near⟩
    · exact h
    · omega

theorem roundDiv_scale {num den k : Nat} (positive : 0 < k) :
    roundDiv (num * k) (den * k) = roundDiv num den := by
  have half (a b : Nat) : 2 * (a * k) < b * k ↔ 2 * a < b := by
    rw [← Nat.mul_assoc]
    exact Nat.mul_lt_mul_right positive
  have half' (a b : Nat) : b * k < 2 * (a * k) ↔ b < 2 * a := by
    rw [← Nat.mul_assoc]
    exact Nat.mul_lt_mul_right positive
  unfold roundDiv
  simp only [Nat.mul_div_mul_right _ _ positive, Nat.mul_mod_mul_right, half, half']

/-- The unit of the last place that a significand can hold. -/
def lastUnit (n : Nat) : Nat :=
  Nat.pow 2 (lastPlace n)

theorem lastUnit_pos (n : Nat) : 0 < lastUnit n :=
  Nat.two_pow_pos _

theorem lt_mul_lastUnit (n : Nat) : n < significandEnd * lastUnit n := by
  have h := lt_pow_lastPlace n
  have split : Nat.pow 2 (lastPlace n + 53) = Nat.pow 2 (lastPlace n) * significandEnd :=
    Nat.pow_add 2 _ 53
  rw [split, Nat.mul_comm] at h
  exact h

/-- A number of so many bits is a multiple of the last unit, or it is clearly less than what the
unit belongs to. -/
theorem HasShortSignificand.lastUnit_dvd_or {n : Nat} (short : HasShortSignificand n) (q : Nat) :
    lastUnit q ∣ n ∨
      2 * n + lastUnit q ≤ significandEnd * lastUnit q ∧ significandEnd * lastUnit q ≤ 2 * q := by
  obtain ⟨significand, place, bound, rfl⟩ := short
  rcases Nat.lt_or_ge place (lastPlace q) with less | more
  · refine .inr ⟨?_, ?_⟩
    · have half : 2 * Nat.pow 2 place ≤ lastUnit q := by
        have := Nat.pow_le_pow_right (n := 2) (by decide) less
        rw [Nat.pow_succ, Nat.mul_comm] at this
        exact this
      have scaled := Nat.mul_le_mul_left significand half
      have last := Nat.mul_le_mul_right (lastUnit q) bound
      rw [Nat.succ_mul] at last
      rw [Nat.mul_left_comm] at scaled
      omega
    · have place : lastPlace q + 53 = q.log2 + 1 := by
        unfold lastPlace at less ⊢
        omega
      have nonzero : q ≠ 0 := by
        rintro rfl
        exact absurd less (by simp [lastPlace, Nat.log2])
      have unit : significandEnd * lastUnit q = 2 * 2 ^ q.log2 := by
        have merged : Nat.pow 2 (lastPlace q + 53) = lastUnit q * significandEnd :=
          Nat.pow_add 2 (lastPlace q) 53
        rw [Nat.mul_comm, ← merged, place]
        exact Nat.pow_succ'
      rw [unit]
      exact Nat.mul_le_mul_left 2 (Nat.log2_self_le nonzero)
  · exact .inl ((Nat.pow_dvd_pow 2 more).mul_left significand)

theorem roundSignificand_eq (num den : Nat) :
    roundSignificand num den =
      roundDiv num (den * lastUnit (num / den)) * lastUnit (num / den) :=
  rfl

theorem roundSignificand_scale {num den k : Nat} (positive : 0 < k) :
    roundSignificand (num * k) (den * k) = roundSignificand num den := by
  rw [roundSignificand_eq, roundSignificand_eq, Nat.mul_div_mul_right _ _ positive,
    Nat.mul_right_comm, roundDiv_scale positive]

/-- Rounding sees a fraction only as the number that it is. -/
theorem roundSignificand_congr {num den num' den' : Nat} (positive : 0 < den)
    (positive' : 0 < den') (same : num * den' = num' * den) :
    roundSignificand num den = roundSignificand num' den' := by
  have scaled : roundSignificand (num' * den) (den' * den) = roundSignificand num' den' :=
    roundSignificand_scale positive
  rw [← roundSignificand_scale positive', ← scaled, same, Nat.mul_comm den']

/-- What is not farther from a number than a part in twice ten to the sixteenth rounds to it. -/
theorem roundSignificand_eq_of_near {num den n : Nat} (short : HasShortSignificand n)
    (positive : 0 < n * den)
    (above : 2 * 10 ^ 16 * num ≤ 2 * 10 ^ 16 * (n * den) + n * den)
    (below : 2 * 10 ^ 16 * (n * den) ≤ 2 * 10 ^ 16 * num + n * den) :
    roundSignificand num den = n := by
  have den_pos : 0 < den := Nat.pos_of_mul_pos_left positive
  have limit : significandEnd = 9007199254740992 := rfl
  have scaled : num < significandEnd * (den * lastUnit (num / den)) :=
    (Nat.lt_mul_div_succ num den_pos).trans_le
      ((Nat.mul_le_mul_left den (lt_mul_lastUnit (num / den))).trans_eq (Nat.mul_left_comm ..))
  have multiple : lastUnit (num / den) ∣ n := by
    rcases short.lastUnit_dvd_or (num / den) with h | ⟨small, large⟩
    · exact h
    · have small := Nat.mul_le_mul_right den small
      have large := Nat.mul_le_mul_right den large
      have quotient := Nat.div_mul_le_self num den
      rw [Nat.add_mul, Nat.mul_assoc, Nat.mul_assoc, Nat.mul_comm (lastUnit _) den] at small
      rw [Nat.mul_assoc, Nat.mul_assoc, Nat.mul_comm (lastUnit _) den] at large
      rw [limit] at scaled small large
      omega
  obtain ⟨units, rfl⟩ := multiple
  have regroup : lastUnit (num / den) * units * den = units * (den * lastUnit (num / den)) := by
    rw [Nat.mul_comm (lastUnit _), Nat.mul_assoc, Nat.mul_comm (lastUnit _)]
  rw [regroup] at above below positive
  rw [roundSignificand_eq, roundDiv_eq_of_near (n := units), Nat.mul_comm]
  · rw [limit] at scaled
    omega
  · rw [limit] at scaled
    omega

/-- Where a unit is small enough, one of its two multiples around a number rounds to the number. -/
theorem roundSignificand_neighbour {n unit scale : Nat} (short : HasShortSignificand n)
    (positive : 0 < n * scale) (unit_pos : 0 < unit) (small : 10 ^ 16 * unit ≤ n * scale) :
    roundSignificand (unit * (n * scale / unit)) scale = n ∨
      roundSignificand (unit * (n * scale / unit + 1)) scale = n := by
  have split := Nat.div_add_mod (n * scale) unit
  rcases Nat.lt_or_ge unit (2 * (n * scale % unit)) with above | below
  · right
    have rest := Nat.mod_lt (n * scale) unit_pos
    rw [Nat.mul_add_one]
    apply roundSignificand_eq_of_near short positive <;> omega
  · left
    apply roundSignificand_eq_of_near short positive <;> omega

/-- What is written with few bits and does not exceed a number does not exceed what the number is
rounded to. -/
theorem le_roundSignificand {num den n : Nat} (short : HasShortSignificand n) (positive : 0 < den)
    (le : n * den ≤ num) : n ≤ roundSignificand num den := by
  rw [roundSignificand_eq]
  have unit := lastUnit_pos (num / den)
  refine le_trans ?_ (Nat.mul_le_mul_right _ (le_roundDiv ..))
  rw [← Nat.div_div_eq_div_mul]
  have quotient : n ≤ num / den := (Nat.le_div_iff_mul_le positive).mpr le
  rcases short.lastUnit_dvd_or (num / den) with ⟨units, rfl⟩ | ⟨small, large⟩
  · rw [Nat.mul_comm]
    refine Nat.mul_le_mul_right _ ((Nat.le_div_iff_mul_le unit).mpr ?_)
    rwa [Nat.mul_comm]
  · have filled : Nat.pow 2 52 ≤ num / den / lastUnit (num / den) := by
      refine (Nat.le_div_iff_mul_le unit).mpr ?_
      have double : significandEnd = 2 * Nat.pow 2 52 := by decide
      rw [double, Nat.mul_assoc] at large
      omega
    have := Nat.mul_le_mul_right (lastUnit (num / den)) filled
    have double : significandEnd = 2 * Nat.pow 2 52 := by decide
    rw [double, Nat.mul_assoc] at small
    omega

/-- What is written with few bits and is not less than a number is not less than what the number is
rounded to. -/
theorem roundSignificand_le {num den n : Nat} (short : HasShortSignificand n) (positive : 0 < den)
    (le : num ≤ n * den) : roundSignificand num den ≤ n := by
  have quotient : num / den ≤ n := Nat.div_le_of_le_mul (by rwa [Nat.mul_comm])
  have unit := lastUnit_pos (num / den)
  rcases short.lastUnit_dvd_or (num / den) with ⟨units, rfl⟩ | ⟨small, large⟩
  · rw [roundSignificand_eq, Nat.mul_comm _ (lastUnit _)]
    refine Nat.mul_le_mul_left _ ?_
    have scaled : 0 < den * lastUnit (num / den) := Nat.mul_pos positive unit
    have regroup : lastUnit (num / den) * units * den = units * (den * lastUnit (num / den)) := by
      rw [Nat.mul_comm (lastUnit _), Nat.mul_assoc, Nat.mul_comm (lastUnit _)]
    rw [regroup] at le
    rcases Nat.lt_or_eq_of_le le with less | same
    · exact (roundDiv_le_succ ..).trans (Nat.div_lt_of_lt_mul (by rwa [Nat.mul_comm]))
    · exact (roundDiv_eq_of_near (by omega) (by omega)).le
  · omega

/-- A number that needs no rounding is kept. -/
theorem roundSignificand_exact {n : Nat} (short : HasShortSignificand n) :
    roundSignificand n 1 = n :=
  Nat.le_antisymm (roundSignificand_le short Nat.one_pos (Nat.mul_one n).ge)
    (le_roundSignificand short Nat.one_pos (Nat.mul_one n).le)

theorem Binary64.ofSteps?_eq_some {x : Binary64} {num den : Nat}
    (near : roundSignificand num den = x.steps) : ofSteps? x.negative num den = some x := by
  have finite : roundSignificand num den < stepLimit := near ▸ x.finite
  rw [ofSteps?, dif_pos finite, Option.some.injEq]
  obtain ⟨negative, steps, _, _⟩ := x
  cases near
  rfl

theorem hasShortSignificand_pow_mul_pow (i j : Nat) :
    HasShortSignificand (Nat.pow 2 i * Nat.pow 2 j) := by
  refine ⟨1, i + j, by decide, ?_⟩
  rw [Nat.one_mul]
  exact (Nat.pow_add 2 i j).symm

theorem hasShortSignificand_mul_pow {n : Nat} (place : Nat) (small : n ≤ significandEnd) :
    HasShortSignificand (n * Nat.pow 2 place) := by
  rcases Nat.lt_or_eq_of_le small with less | rfl
  · exact ⟨n, place, less, rfl⟩
  · exact hasShortSignificand_pow_mul_pow 53 place

theorem stepsPerUnit_eq_pow : ∃ place, stepsPerUnit = Nat.pow 2 place :=
  ⟨1074, by rw [stepsPerUnit]⟩

theorem hasShortSignificand_mul_stepsPerUnit {n : Nat} (small : n ≤ significandEnd) :
    HasShortSignificand (n * stepsPerUnit) := by
  obtain ⟨place, unit⟩ := stepsPerUnit_eq_pow
  rw [unit]
  exact hasShortSignificand_mul_pow place small

theorem roundSignificand_units {n : Nat} (small : n ≤ significandEnd) :
    roundSignificand (n * stepsPerUnit) 1 = n * stepsPerUnit :=
  roundSignificand_exact (hasShortSignificand_mul_stepsPerUnit small)

/-- Up to the end of the significands, whole numbers are told apart from each other and from all
beyond. -/
theorem roundSignificand_units_lt_iff {m n : Nat} (small : m < significandEnd ∨ n < significandEnd) :
    roundSignificand (m * stepsPerUnit) 1 < roundSignificand (n * stepsPerUnit) 1 ↔ m < n := by
  have scaled {a b : Nat} (le : a ≤ b) : a * stepsPerUnit * 1 ≤ b * stepsPerUnit := by
    rw [Nat.mul_one]
    exact Nat.mul_le_mul_right _ le
  have keeps {a b : Nat} (below : a ≤ significandEnd) (le : a ≤ b) :
      a * stepsPerUnit ≤ roundSignificand (b * stepsPerUnit) 1 :=
    le_roundSignificand (hasShortSignificand_mul_stepsPerUnit below) Nat.one_pos (scaled le)
  constructor
  · intro less
    by_contra! more
    have exact_n := roundSignificand_units (n := n) (by omega)
    have := keeps (by omega) more
    omega
  · intro less
    have exact_m := roundSignificand_units (n := m) (by omega)
    have := keeps (a := m + 1) (by omega) less
    have unit := stepsPerUnit_pos
    rw [Nat.add_one_mul] at this
    omega

namespace Binary64

theorem toInt_of_ofSteps? {negative : Bool} {num den : Nat} {x : Binary64}
    (h : ofSteps? negative num den = some x) :
    x.toInt = if negative then -(roundSignificand num den : Int) else roundSignificand num den := by
  rw [ofSteps?] at h
  split at h
  next finite =>
    cases h
    rfl
  next => cases h

theorem toInt_of_ofInt? {n : Nat} {x : Binary64} (h : ofInt? n = some x) :
    x.toInt = roundSignificand (n * stepsPerUnit) 1 := by
  have sign : decide ((n : Int) < 0) = false := by simp
  have value := toInt_of_ofSteps? h
  rwa [sign, Int.natAbs_natCast, if_neg Bool.false_ne_true] at value

theorem signed_mul (n : Int) (unit : Nat) :
    (if decide (n < 0) then -((n.natAbs * unit : Nat) : Int) else (n.natAbs * unit : Nat)) =
      n * unit := by
  rw [Nat.cast_mul, ← neg_mul]
  split
  next negative => rw [Int.ofNat_natAbs_of_nonpos (of_decide_eq_true negative).le, neg_neg]
  next natural => rw [Int.natAbs_of_nonneg (by simpa using natural)]

/-- An integer that has a significand of its own is not rounded. -/
theorem toInt_of_small {n : Int} {x : Binary64} (h : ofInt? n = some x)
    (small : n.natAbs ≤ significandEnd) : x.toInt = n * stepsPerUnit := by
  have value := toInt_of_ofSteps? h
  rw [roundSignificand_units small] at value
  exact value.trans (signed_mul n stepsPerUnit)

theorem ofInt?_isSome_of_le {n place : Nat} (bound : Nat) (power : bound = Nat.pow 2 place)
    (finite : bound * stepsPerUnit < stepLimit) (small : n ≤ bound) : (ofInt? n).isSome := by
  obtain ⟨unit, hu⟩ := stepsPerUnit_eq_pow
  have short : HasShortSignificand (bound * stepsPerUnit) := by
    rw [power, hu]
    exact hasShortSignificand_pow_mul_pow place unit
  have rounded : roundSignificand (n * stepsPerUnit) 1 < stepLimit := by
    refine (roundSignificand_le short Nat.one_pos ?_).trans_lt finite
    rw [Nat.mul_one]
    exact Nat.mul_le_mul_right _ small
  rw [ofInt?, Int.natAbs_natCast, ofSteps?, dif_pos rounded]
  rfl

/-- A count of 64 bits has a number next to it. -/
theorem ofInt?_isSome {n : Nat} (small : n < 2 ^ 64) : (ofInt? n).isSome :=
  ofInt?_isSome_of_le (Nat.pow 2 64) rfl (by decide +kernel) small.le

theorem ofInt?_lt_iff {m n : Nat} {x y : Binary64} (hx : ofInt? m = some x)
    (hy : ofInt? n = some y) (small : m < significandEnd ∨ n < significandEnd) :
    x < y ↔ m < n := by
  rw [← roundSignificand_units_lt_iff small]
  show x.toInt < y.toInt ↔ _
  rw [toInt_of_ofInt? hx, toInt_of_ofInt? hy]
  exact Int.ofNat_lt

def zero : Binary64 :=
  ⟨false, 0, by decide +kernel, ⟨0, 0, by decide, rfl⟩⟩

def one : Binary64 :=
  ⟨false, 1 * stepsPerUnit, by decide +kernel, hasShortSignificand_mul_stepsPerUnit (by decide)⟩

theorem toInt_eq_zero_iff {x : Binary64} : x.toInt = 0 ↔ x.steps = 0 := by
  rw [← natAbs_toInt, Int.natAbs_eq_zero]

theorem beq_iff {x y : Binary64} : (x == y) = true ↔ x.toInt = y.toInt := by
  show (x.toInt == y.toInt) = true ↔ x.toInt = y.toInt
  exact beq_iff_eq

end Binary64

end CheckedTypes
