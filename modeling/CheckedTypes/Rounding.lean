namespace CheckedTypes

/-- The integer nearest to `num / den`; a tie goes to the even one. -/
def roundDiv (num den : Nat) : Nat :=
  let quotient := num / den
  let double := 2 * (num % den)
  if double < den then quotient
  else if den < double then quotient + 1
  else quotient + quotient % 2

theorem roundDiv_le_succ (num den : Nat) : roundDiv num den ≤ num / den + 1 := by
  unfold roundDiv
  dsimp only
  split
  · omega
  · split <;> omega

/-- The exponent of the last binary place that a significand of 53 bits can hold. -/
def lastPlace (n : Nat) : Nat :=
  n.log2 - 52

theorem lt_pow_lastPlace (n : Nat) : n < Nat.pow 2 (lastPlace n + 53) :=
  Nat.lt_of_lt_of_le Nat.lt_log2_self
    (Nat.pow_le_pow_right (by decide) (by unfold lastPlace; omega))

def significandEnd : Nat :=
  Nat.pow 2 53

/-- A natural number that 53 significant bits can write. -/
def HasShortSignificand (n : Nat) : Prop :=
  ∃ significand place, significand < significandEnd ∧ n = significand * Nat.pow 2 place

/-- `num / den` rounded to 53 significant bits, never below the units place. -/
def roundSignificand (num den : Nat) : Nat :=
  let unit := Nat.pow 2 (lastPlace (num / den))
  roundDiv num (den * unit) * unit

theorem roundSignificand_short (num den : Nat) :
    HasShortSignificand (roundSignificand num den) := by
  have small : num / (den * Nat.pow 2 (lastPlace (num / den))) < significandEnd := by
    rw [← Nat.div_div_eq_div_mul]
    apply Nat.div_lt_of_lt_mul
    have := lt_pow_lastPlace (num / den)
    rwa [show Nat.pow 2 (lastPlace (num / den) + 53) =
      Nat.pow 2 (lastPlace (num / den)) * significandEnd from Nat.pow_add 2 _ 53] at this
  have bound := roundDiv_le_succ num (den * Nat.pow 2 (lastPlace (num / den)))
  by_cases full : roundDiv num (den * Nat.pow 2 (lastPlace (num / den))) = significandEnd
  · refine ⟨Nat.pow 2 52, lastPlace (num / den) + 1, by decide, ?_⟩
    have double : significandEnd = Nat.pow 2 52 * 2 := by decide
    have succ : Nat.pow 2 (lastPlace (num / den) + 1) = Nat.pow 2 (lastPlace (num / den)) * 2 := rfl
    show roundDiv num (den * Nat.pow 2 (lastPlace (num / den))) *
      Nat.pow 2 (lastPlace (num / den)) = _
    rw [full, double, succ, Nat.mul_assoc, Nat.mul_comm 2]
  · exact ⟨_, lastPlace (num / den), by omega, rfl⟩

end CheckedTypes
