import CheckedTypes.Proofs.CheckedValidity
import CheckedTypes.Proofs.NearestNumber

namespace CheckedTypes

theorem roundDiv_nearest (num : Nat) {den : Nat} (positive : 0 < den) (n : Nat) :
    Nat.dist num (roundDiv num den * den) ≤ Nat.dist num (n * den) := by
  have split := Nat.div_add_mod num den
  have rest := Nat.mod_lt num positive
  rw [Nat.mul_comm] at split
  have side : n * den ≤ num / den * den ∨ num / den * den + den ≤ n * den := by
    rcases Nat.lt_or_ge (num / den) n with more | less
    · exact .inr (mul_add_le_of_lt den more)
    · exact .inl (Nat.mul_le_mul_right den less)
  unfold Nat.dist
  rcases roundDiv_cases num den with ⟨h, _⟩ | ⟨h, _⟩ <;> rw [h]
  · omega
  · rw [Nat.succ_mul]
    omega

/-- Another integer is as near only where two are, and then the even one is taken. -/
theorem roundDiv_even {num den n : Nat} (positive : 0 < den)
    (near : Nat.dist num (n * den) = Nat.dist num (roundDiv num den * den))
    (other : n ≠ roundDiv num den) : roundDiv num den % 2 = 0 := by
  have split := Nat.div_add_mod num den
  have rest := Nat.mod_lt num positive
  rw [Nat.mul_comm] at split
  have tie : 2 * (num % den) = den := by
    have apart : n * den + den ≤ roundDiv num den * den ∨
        roundDiv num den * den + den ≤ n * den :=
      (Nat.lt_or_gt_of_ne other).imp (mul_add_le_of_lt den) (mul_add_le_of_lt den)
    unfold Nat.dist at near
    rcases roundDiv_cases num den with ⟨h, _⟩ | ⟨h, _⟩ <;> rw [h] at near apart
    · omega
    · rw [Nat.succ_mul] at near apart
      omega
  unfold roundDiv
  simp only [tie, Nat.lt_irrefl, if_false]
  omega

/-- A number of so many bits is on the grid of the numbers that rounding can give, or below a part
of the grid that is below what is rounded. -/
theorem HasShortSignificand.grid {n : Nat} (short : HasShortSignificand n) (num den : Nat)
    (positive : 0 < den) :
    (∃ units, n = units * lastUnit (num / den)) ∨
      n * den < Nat.pow 2 52 * (den * lastUnit (num / den)) ∧
        Nat.pow 2 52 * (den * lastUnit (num / den)) ≤ num := by
  rcases short.lastUnit_dvd_or (num / den) with ⟨units, h⟩ | ⟨small, large⟩
  · exact .inl ⟨units, h.trans (Nat.mul_comm ..)⟩
  · right
    have double : significandEnd = 2 * Nat.pow 2 52 := by decide
    have unit := lastUnit_pos (num / den)
    rw [double, Nat.mul_assoc] at small large
    rw [Nat.mul_left_comm, Nat.mul_comm n den]
    constructor
    · exact Nat.mul_lt_mul_of_pos_left (by omega) positive
    · exact (Nat.mul_le_mul_left den (by omega)).trans (Nat.mul_div_le num den)

theorem roundSignificand_mul (num den : Nat) :
    roundSignificand num den * den =
      roundDiv num (den * lastUnit (num / den)) * (den * lastUnit (num / den)) := by
  rw [roundSignificand_eq, Nat.mul_comm den, Nat.mul_assoc]

/-- Nothing that is written with so few bits is nearer to a number than what it is rounded to. -/
theorem roundSignificand_nearest (num : Nat) {den n : Nat} (short : HasShortSignificand n)
    (positive : 0 < den) :
    Nat.dist num (roundSignificand num den * den) ≤ Nat.dist num (n * den) := by
  have scaled := Nat.mul_pos positive (lastUnit_pos (num / den))
  rw [roundSignificand_mul]
  rcases short.grid num den positive with ⟨units, rfl⟩ | ⟨small, large⟩
  · rw [Nat.mul_assoc, Nat.mul_comm _ den]
    exact roundDiv_nearest num scaled units
  · refine (roundDiv_nearest num scaled (Nat.pow 2 52)).trans ?_
    unfold Nat.dist
    omega

/-- The last digit of the significand is zero. -/
def HasEvenSignificand (n : Nat) : Prop :=
  2 * lastUnit n ∣ n

theorem lastPlace_le {n place : Nat} (small : n < Nat.pow 2 (place + 53)) :
    lastPlace n ≤ place := by
  unfold lastPlace
  rcases Nat.eq_zero_or_pos n with rfl | positive
  · simp
  · have := (Nat.log2_lt positive.ne').mpr small
    omega

theorem hasEvenSignificand_mul {significand : Nat} (place : Nat)
    (small : significand < significandEnd) (even : 2 ∣ significand) :
    HasEvenSignificand (significand * Nat.pow 2 place) := by
  have last : lastPlace (significand * Nat.pow 2 place) ≤ place := by
    apply lastPlace_le
    have split : Nat.pow 2 (place + 53) = Nat.pow 2 place * significandEnd := Nat.pow_add 2 place 53
    rw [split, Nat.mul_comm]
    exact Nat.mul_lt_mul_of_pos_left small (Nat.two_pow_pos place)
  exact Nat.mul_dvd_mul even (Nat.pow_dvd_pow 2 last)

/-- Where something else is as near, what is taken has the even significand. -/
theorem roundSignificand_even (num : Nat) {den n : Nat} (short : HasShortSignificand n)
    (positive : 0 < den)
    (near : Nat.dist num (n * den) = Nat.dist num (roundSignificand num den * den))
    (other : n ≠ roundSignificand num den) : HasEvenSignificand (roundSignificand num den) := by
  have scaled := Nat.mul_pos positive (lastUnit_pos (num / den))
  rw [roundSignificand_mul] at near
  have even : roundDiv num (den * lastUnit (num / den)) % 2 = 0 := by
    rcases short.grid num den positive with ⟨units, rfl⟩ | ⟨small, large⟩
    · rw [Nat.mul_assoc, Nat.mul_comm _ den] at near
      refine roundDiv_even scaled near fun h => other ?_
      rw [roundSignificand_eq, h]
    · have nearer := roundDiv_nearest num scaled (Nat.pow 2 52)
      unfold Nat.dist at near nearer
      omega
  have bound : roundDiv num (den * lastUnit (num / den)) ≤ significandEnd := by
    refine (roundDiv_le_succ ..).trans (Nat.div_lt_of_lt_mul ?_)
    rw [Nat.mul_right_comm, Nat.mul_assoc]
    exact (Nat.lt_mul_div_succ num positive).trans_le
      (Nat.mul_le_mul_left den (lt_mul_lastUnit (num / den)))
  rw [roundSignificand_eq]
  rcases Nat.lt_or_eq_of_le bound with less | full
  · exact hasEvenSignificand_mul _ less (Nat.dvd_of_mod_eq_zero even)
  · -- The significand is full, so that it is a place higher.
    have carried :
        HasEvenSignificand (Nat.pow 2 52 * Nat.pow 2 (lastPlace (num / den) + 1)) :=
      hasEvenSignificand_mul _ (by decide) (by decide)
    have shift : significandEnd * lastUnit (num / den) =
        Nat.pow 2 52 * Nat.pow 2 (lastPlace (num / den) + 1) := by
      rw [show significandEnd = Nat.pow 2 52 * 2 by decide, Nat.mul_assoc, Nat.mul_comm 2]
      rfl
    rwa [full, shift]

/-- What is a multiple of a power of two stays one. -/
theorem pow_dvd_roundSignificand (k place : Nat) :
    Nat.pow 2 place ∣ roundSignificand (k * Nat.pow 2 place) 1 := by
  rw [roundSignificand_eq, Nat.div_one, Nat.one_mul]
  rcases Nat.le_total place (lastPlace (k * Nat.pow 2 place)) with low | high
  · exact (Nat.pow_dvd_pow 2 low).mul_left _
  · have multiple : lastUnit (k * Nat.pow 2 place) ∣ k * Nat.pow 2 place :=
      (Nat.pow_dvd_pow 2 high).mul_left k
    have exact_multiple : roundDiv (k * Nat.pow 2 place) (lastUnit (k * Nat.pow 2 place)) =
        k * Nat.pow 2 place / lastUnit (k * Nat.pow 2 place) := by
      have unit := lastUnit_pos (k * Nat.pow 2 place)
      apply roundDiv_eq_of_near <;> rw [Nat.div_mul_cancel multiple] <;> omega
    rw [exact_multiple, Nat.div_mul_cancel multiple]
    exact Nat.dvd_mul_left ..

namespace Binary64

/-- The number that is nearest to another. Where two are, it is the one whose significand is
even. -/
structure IsNearest (x : Binary64) (q : ℚ) : Prop where
  near : ∀ y : Binary64, |q - x.value| ≤ |q - y.value|
  even : ∀ y : Binary64, |q - y.value| = |q - x.value| → y.value ≠ x.value →
    HasEvenSignificand x.steps

theorem value_inj {x y : Binary64} : x.value = y.value ↔ x.toInt = y.toInt := by
  rw [value, value, div_left_inj' stepsPerUnit_ne_zero, Int.cast_inj]

theorem value_eq_intCast_iff {x : Binary64} {n : ℤ} :
    x.value = n ↔ x.toInt = n * stepsPerUnit := by
  rw [value, div_eq_iff stepsPerUnit_ne_zero]
  exact_mod_cast Iff.rfl

theorem abs_sub_value (n : ℤ) (x : Binary64) :
    |(n : ℚ) - x.value| = ((n * stepsPerUnit - x.toInt).natAbs : ℚ) / stepsPerUnit := by
  rw [value, ← mul_div_cancel_right₀ (n : ℚ) stepsPerUnit_ne_zero, ← sub_div, abs_div,
    abs_of_pos stepsPerUnit_cast_pos, Nat.cast_natAbs]
  push_cast
  rfl

theorem abs_sub_value_le_iff {n : ℤ} {x y : Binary64} :
    |(n : ℚ) - x.value| ≤ |(n : ℚ) - y.value| ↔
      (n * stepsPerUnit - x.toInt).natAbs ≤ (n * stepsPerUnit - y.toInt).natAbs := by
  rw [abs_sub_value, abs_sub_value, div_le_div_iff_of_pos_right stepsPerUnit_cast_pos,
    Nat.cast_le]

/-- The signs of two numbers bring them no nearer. -/
theorem dist_steps_le (n : ℤ) (y : Binary64) :
    Nat.dist (n.natAbs * stepsPerUnit) y.steps ≤ (n * stepsPerUnit - y.toInt).natAbs := by
  have magnitude : n.natAbs * stepsPerUnit = (n * stepsPerUnit).natAbs := by
    rw [Int.natAbs_mul, Int.natAbs_natCast]
  rw [magnitude, ← natAbs_toInt]
  unfold Nat.dist
  omega

theorem steps_of_ofInt? {n : ℤ} {x : Binary64} (h : ofInt? n = some x) :
    x.steps = roundSignificand (n.natAbs * stepsPerUnit) 1 := by
  have value := toInt_of_ofSteps? h
  rw [← natAbs_toInt, value]
  split
  next => exact (Int.natAbs_neg _).trans (Int.natAbs_natCast _)
  next => exact Int.natAbs_natCast _

/-- What an integer is rounded to is on its side. -/
theorem dist_steps_of_ofInt? {n : ℤ} {x : Binary64} (h : ofInt? n = some x) :
    (n * stepsPerUnit - x.toInt).natAbs = Nat.dist (n.natAbs * stepsPerUnit) x.steps := by
  rw [steps_of_ofInt? h, toInt_of_ofSteps? h, ← signed_mul]
  generalize roundSignificand _ 1 = rounded
  generalize n.natAbs * stepsPerUnit = magnitude
  unfold Nat.dist
  split <;> omega

theorem ofInt?_isNearest {n : ℤ} {x : Binary64} (h : ofInt? n = some x) : x.IsNearest n := by
  have nearest (y : Binary64) :
      Nat.dist (n.natAbs * stepsPerUnit) x.steps ≤ Nat.dist (n.natAbs * stepsPerUnit) y.steps := by
    have near := roundSignificand_nearest (n.natAbs * stepsPerUnit) y.short Nat.one_pos
    rwa [Nat.mul_one, Nat.mul_one, ← steps_of_ofInt? h] at near
  have near (y : Binary64) : |(n : ℚ) - x.value| ≤ |(n : ℚ) - y.value| := by
    rw [abs_sub_value_le_iff, dist_steps_of_ofInt? h]
    exact (nearest y).trans (dist_steps_le n y)
  refine ⟨near, fun y same other => ?_⟩
  have closer := abs_sub_value_le_iff.mp same.le
  have farther := abs_sub_value_le_iff.mp same.ge
  have tie :
      Nat.dist (n.natAbs * stepsPerUnit) y.steps = Nat.dist (n.natAbs * stepsPerUnit) x.steps :=
    ((dist_steps_le n y).trans (closer.trans_eq (dist_steps_of_ofInt? h))).antisymm (nearest y)
  have distinct : y.steps ≠ x.steps := by
    -- Two numbers that differ in their signs only are as near to zero only, which is nearer.
    intro sizes
    rw [← natAbs_toInt, ← natAbs_toInt] at sizes
    have origin := abs_sub_value_le_iff.mp (near zero)
    have zero_toInt : zero.toInt = 0 := toInt_eq_zero_iff.mpr rfl
    rw [zero_toInt] at origin
    exact other (value_inj.mpr (by omega))
  have even := roundSignificand_even (n.natAbs * stepsPerUnit) y.short Nat.one_pos
  rw [Nat.mul_one, Nat.mul_one, ← steps_of_ofInt? h] at even
  exact even tie distinct

theorem ofInt?_isInteger {n : ℤ} {x : Binary64} (h : ofInt? n = some x) : x.IsInteger := by
  obtain ⟨place, unit⟩ := stepsPerUnit_eq_pow
  rw [IsInteger, ← Int.dvd_natAbs, natAbs_toInt, steps_of_ofInt? h, unit]
  exact Int.natCast_dvd_natCast.mpr (pow_dvd_roundSignificand ..)

/-- A signed count of 64 bits has a number next to it as well. -/
theorem ofInt?_isSome_of_natAbs {n : ℤ} (small : n.natAbs < 2 ^ 64) : (ofInt? n).isSome := by
  have natural := ofInt?_isSome small
  unfold ofInt? ofSteps? at natural ⊢
  rw [Int.natAbs_natCast] at natural
  split at natural
  next finite => rw [dif_pos finite]; rfl
  next => cases natural

namespace IsNearest

variable {x : Binary64} {q : ℚ}

/-- A number that is held is nearest to itself. -/
theorem value_eq (nearest : x.IsNearest q) {y : Binary64} (same : y.value = q) : x.value = q := by
  have distance := nearest.near y
  rw [same, sub_self, abs_zero] at distance
  exact (sub_eq_zero.mp (abs_nonpos_iff.mp distance)).symm

/-- Rounding passes no other of the numbers, on the way up. -/
theorem lt_iff (nearest : x.IsNearest q) {y : Binary64} (other : y.value ≠ x.value) :
    y.value < q ↔ y.value < x.value := by
  have near := nearest.near y
  constructor
  · intro below
    by_contra! passed
    have between := lt_of_le_of_ne passed other.symm
    rw [abs_of_pos (sub_pos.mpr below), abs_of_pos (sub_pos.mpr (between.trans below))] at near
    linarith
  · intro below
    by_contra! passed
    rw [abs_of_nonpos (sub_nonpos.mpr passed),
      abs_of_nonpos (sub_nonpos.mpr (passed.trans below.le))] at near
    linarith

/-- Rounding passes no other of the numbers, on the way down. -/
theorem gt_iff (nearest : x.IsNearest q) {y : Binary64} (other : y.value ≠ x.value) :
    q < y.value ↔ x.value < y.value := by
  have apart : y.value ≠ q := fun same => other (same.trans (nearest.value_eq same).symm)
  rw [← not_iff_not, not_lt, not_lt, apart.le_iff_lt, other.le_iff_lt]
  exact nearest.lt_iff other

end IsNearest

theorem exists_value_eq {n : ℤ} {x : Binary64} (h : ofInt? n = some x) :
    ∃ m : ℤ, x.value = m := by
  obtain ⟨m, hm⟩ := ofInt?_isInteger h
  exact ⟨m, value_eq_intCast_iff.mpr (hm.trans (mul_comm ..))⟩

theorem value_of_small {n : ℤ} {x : Binary64} (h : ofInt? n = some x)
    (small : n.natAbs ≤ significandEnd) : x.value = n :=
  value_eq_intCast_iff.mpr (toInt_of_small h small)

theorem value_of_units {x : Binary64} {n : Nat} (natural : x.negative = false)
    (units : x.steps = n * stepsPerUnit) : x.value = n := by
  have integer : x.value = (n : ℤ) := value_eq_intCast_iff.mpr (by
    rw [toInt, natural, if_neg Bool.false_ne_true, units, Nat.cast_mul])
  rw [integer, Int.cast_natCast]

end Binary64

/-- An integer is within the bounds and divisible by what it has to be a multiple of. -/
structure NumericConstraints.Admit (constraints : NumericConstraints) (n : ℤ) : Prop where
  minimum : ∀ bound, constraints.minimum = some bound →
    bound.value.value < n ∨ bound.value.value = n ∧ bound.exclusive = false
  maximum : ∀ bound, constraints.maximum = some bound →
    n < bound.value.value ∨ n = bound.value.value ∧ bound.exclusive = false
  multipleOf : ∀ divisor, constraints.multipleOf = some divisor →
    ∃ quotient : ℤ, (n : ℚ) = divisor.value * quotient

theorem lt_or_le_and_iff {a b : ℚ} {p : Prop} : a < b ∨ a ≤ b ∧ p ↔ a < b ∨ a = b ∧ p := by
  constructor
  · rintro (less | ⟨le, hp⟩)
    · exact .inl less
    · exact le.lt_or_eq.imp_right fun same => ⟨same, hp⟩
  · exact Or.imp_right (And.imp_left Eq.le)

/-- Constraints hold of a number that is an integer if the integer is one that they admit. -/
theorem NumericConstraints.hold_iff_admits {constraints : NumericConstraints}
    (nonzero : ∀ divisor, constraints.multipleOf = some divisor → divisor.value ≠ 0)
    {x : Binary64} {m : ℤ} (held : x.value = m) : constraints.Hold x ↔ constraints.Admit m := by
  have multiple : ∀ divisor, constraints.multipleOf = some divisor →
      (divisor.IsMultiple x ↔ ∃ quotient : ℤ, (m : ℚ) = divisor.value * quotient) := by
    intro divisor given
    rw [Binary64.isMultiple_iff, remainder_eq_zero_iff (nonzero divisor given), held,
      and_iff_right (nonzero divisor given)]
  constructor
  · rintro ⟨minimum, maximum, multipleOf⟩
    simp only [← Binary64.value_lt_iff, ← Binary64.value_le_iff, held, lt_or_le_and_iff]
      at minimum maximum
    exact ⟨minimum, maximum, fun divisor given =>
      (multiple divisor given).mp (multipleOf divisor given)⟩
  · rintro ⟨minimum, maximum, multipleOf⟩
    refine ⟨?_, ?_, fun divisor given => (multiple divisor given).mpr (multipleOf divisor given)⟩
    all_goals
      simp only [← Binary64.value_lt_iff, ← Binary64.value_le_iff, held, lt_or_le_and_iff]
      assumption

/-- A check of an integer is the check of the number nearest to it. Up to the end of the
significands that is the integer itself, and beyond it is on the same side of every bound that it is
not equal to. -/
theorem TypeTable.check_integer_iff_nearest (constraints : NumericConstraints) (n : ℤ)
    (least : -2 ^ 63 ≤ n) (most : n < 2 ^ 64)
    (nonzero : ∀ divisor, constraints.multipleOf = some divisor → divisor.value ≠ 0) :
    ∃ (x : Binary64) (m : ℤ), x.value = m ∧ x.IsNearest n ∧
      (∀ table path, checkValue table (.integer constraints) path (.number (.integer n)) = .ok () ↔
        constraints.Admit m) ∧
      (∀ (table : TypeTable) (typeName : String) (entry : TypeEntry),
        table.lookup? typeName = some entry → entry.node = .integer constraints →
        (table.check typeName (.number (.integer n)) = .ok () ↔ constraints.Admit m)) ∧
      (n.natAbs ≤ 2 ^ 53 → m = n) ∧
      ((∃ y : Binary64, y.value = n) → m = n) ∧
      ∀ y : Binary64, y.value ≠ m →
        (y.value < n ↔ y.value < m) ∧ ((n : ℚ) < y.value ↔ m < y.value) := by
  obtain ⟨x, hx⟩ := Option.isSome_iff_exists.mp
    (Binary64.ofInt?_isSome_of_natAbs (n := n) (by omega))
  obtain ⟨m, held⟩ := Binary64.exists_value_eq hx
  have nearest := Binary64.ofInt?_isNearest hx
  have value (table : TypeTable) (path : List ValueStep) :
      checkValue table (.integer constraints) path (.number (.integer n)) = .ok () ↔
        constraints.Admit m := by
    have number : (Json.number (.integer n)).asBinary64? = some x := hx
    rw [checkValue_integer, checkInteger_ok_iff, number]
    simp [Binary64.ofInt?_isInteger hx, NumericConstraints.hold_iff_admits nonzero held]
  refine ⟨x, m, held, nearest, value, ?_, ?_, ?_, ?_⟩
  · intro table typeName entry known typed
    rw [check, known, ← value table [], ← typed]
  · intro small
    have same := Binary64.value_of_small hx small
    exact_mod_cast held.symm.trans same
  · rintro ⟨y, same⟩
    exact_mod_cast held.symm.trans (nearest.value_eq same)
  · intro y other
    rw [← held] at other ⊢
    exact ⟨nearest.lt_iff other, nearest.gt_iff other⟩

/-- The number up to which every integer is held. -/
def Binary64.lastExact : Binary64 :=
  ⟨false, significandEnd * stepsPerUnit, by decide +kernel,
    hasShortSignificand_mul_stepsPerUnit le_rfl⟩

def lastExactConstraints : NumericConstraints :=
  ⟨none, some ⟨.lastExact, false⟩, some .one⟩

def lastExactTable : TypeTable where
  entries := [⟨"small", ["small"], .integer lastExactConstraints, "Small"⟩]

theorem Binary64.lastExact_value : lastExact.value = 2 ^ 53 := by
  rw [value_of_units (x := lastExact) (n := significandEnd) rfl rfl]
  norm_num [significandEnd]

theorem lastExactConstraints_nonzero :
    ∀ divisor, lastExactConstraints.multipleOf = some divisor → divisor.value ≠ 0 := by
  rintro divisor ⟨⟩
  rw [Binary64.value_of_units (x := .one) (n := 1) rfl rfl]
  exact Nat.cast_ne_zero.mpr Nat.one_ne_zero

theorem le_of_lastExactConstraints {n : ℤ} (admitted : lastExactConstraints.Admit n) :
    n ≤ 2 ^ 53 := by
  have bounded := (admitted.maximum _ rfl).elim le_of_lt fun same => same.1.le
  rw [Binary64.lastExact_value] at bounded
  exact_mod_cast bounded

/-- A power of two beyond the bound is held and refused. -/
theorem TypeTable.check_integer_iff_nearest_power : (-2 ^ 63 : ℤ) ≤ 2 ^ 63 ∧ (2 ^ 63 : ℤ) < 2 ^ 64 ∧
    lastExactTable.check "small" (.number (.integer (2 ^ 63))) ≠ .ok () := by
  obtain ⟨x, m, -, -, -, accepted, -, kept, -⟩ := check_integer_iff_nearest lastExactConstraints
    (2 ^ 63) (by decide) (by decide) lastExactConstraints_nonzero
  have short : HasShortSignificand (Nat.pow 2 63 * stepsPerUnit) := by
    obtain ⟨place, unit⟩ := stepsPerUnit_eq_pow
    rw [unit]
    exact hasShortSignificand_pow_mul_pow 63 place
  have power : ∃ y : Binary64, y.value = ((2 ^ 63 : ℤ) : ℚ) := by
    let y : Binary64 := ⟨false, Nat.pow 2 63 * stepsPerUnit, by decide +kernel, short⟩
    have held := Binary64.value_of_units (x := y) (n := Nat.pow 2 63) rfl rfl
    exact ⟨y, held.trans (by norm_num)⟩
  refine ⟨by decide, by decide, fun ok => ?_⟩
  have admitted := (accepted lastExactTable "small" _ rfl rfl).mp ok
  rw [kept power] at admitted
  exact absurd (le_of_lastExactConstraints admitted) (by decide)

/-- The integer after the last exact one goes to its neighbour, which is within the bound. -/
theorem TypeTable.check_integer_accepts_beyond_maximum :
    Binary64.lastExact.value = 2 ^ 53 ∧
    lastExactTable.check "small" (.number (.integer (2 ^ 53 + 1))) = .ok () ∧
    ¬lastExactConstraints.Admit (2 ^ 53 + 1) := by
  have near : Binary64.ofInt? (2 ^ 53 + 1) = some .lastExact :=
    Binary64.ofSteps?_eq_some (x := .lastExact) (by decide +kernel)
  refine ⟨Binary64.lastExact_value, ?_, fun admitted => ?_⟩
  · have number : (Json.number (.integer (2 ^ 53 + 1))).asBinary64? = some .lastExact := near
    have held : lastExactConstraints.Hold .lastExact :=
      NumericConstraints.admits_iff.mp (by decide +kernel)
    exact checkValue_integer.trans (checkInteger_ok_iff.mpr
      ⟨_, number, Binary64.ofInt?_isInteger near, held⟩)
  · exact absurd (le_of_lastExactConstraints admitted) (by decide)

end CheckedTypes
