import CheckedTypes.Quoted
import Mathlib.Logic.Function.Basic
import Mathlib.Tactic.SplitIfs
import Mathlib.Data.List.Basic

namespace CheckedTypes

/-- A literal stands on one line. -/
theorem newline_not_mem_quote (text : String) : '\n' ∉ (quote text).toList := by
  have char : ∀ c, '\n' ∉ quotedChar c := by
    intro c
    unfold quotedChar
    split
    next h => rcases h with rfl | rfl <;> simp
    next =>
      split
      next letter hl =>
        unfold escapeLetter? at hl
        split_ifs at hl <;> cases hl <;> simp
      next hl =>
        split
        next hc =>
          have digits : ∀ n < 0x20, '\n' ≠ (n / 16).digitChar ∧ '\n' ≠ (n % 16).digitChar := by
            decide
          simp [digits c.toNat hc]
        next hc =>
          rw [List.mem_singleton]
          rintro rfl
          exact hc (by decide)
  simp [quote, quotedChars, char]

/-- A character that does not stand for itself in a literal. -/
def IsEscaped (c : Char) : Prop :=
  c.toNat < 0x20 ∨ c = '"' ∨ c = '\\'

theorem quotedChar_of_not_isEscaped {c : Char} (h : ¬IsEscaped c) : quotedChar c = [c] := by
  obtain ⟨control, quotes⟩ := not_or.mp h
  have letter : escapeLetter? c = none := by
    unfold escapeLetter?
    split_ifs <;> first | rfl | (subst_vars; exact absurd (by decide) control)
  rw [quotedChar, if_neg quotes, letter]
  exact if_neg control

/-- An escape is a backslash and a letter, and no quote or backslash comes behind them. -/
theorem exists_letter_of_isEscaped {c : Char} (h : IsEscaped c) :
    ∃ letter rest, quotedChar c = '\\' :: letter :: rest ∧ ∀ d ∈ rest, d ≠ '\\' ∧ d ≠ '"' := by
  unfold quotedChar
  split
  next => exact ⟨c, [], rfl, by simp⟩
  next hq =>
    split
    next letter _ => exact ⟨letter, [], rfl, by simp⟩
    next =>
      have control : c.toNat < 0x20 := h.resolve_right hq
      have digits : ∀ n < 0x20, ((n / 16).digitChar ≠ '\\' ∧ (n / 16).digitChar ≠ '"') ∧
          (n % 16).digitChar ≠ '\\' ∧ (n % 16).digitChar ≠ '"' := by
        decide
      exact ⟨_, _, if_pos control, by simp [digits c.toNat control]⟩

theorem quotedChar_of_isEscaped {c : Char} (h : IsEscaped c) :
    ∃ rest, quotedChar c = '\\' :: rest := by
  obtain ⟨letter, rest, escape, -⟩ := exists_letter_of_isEscaped h
  exact ⟨letter :: rest, escape⟩

theorem eq_of_quotedChar_begins {c d : Char} (hc : IsEscaped c) (hd : IsEscaped d)
    (h : quotedChar c <+: quotedChar d) : c = d := by
  have number {e : Char} (he : IsEscaped e) : e.toNat ∈ List.range 0x20 ++ [0x22, 0x5c] := by
    rcases he with he | rfl | rfl
    · exact List.mem_append_left _ (List.mem_range.mpr he)
    · decide
    · decide
  have apart : ∀ m ∈ List.range 0x20 ++ [0x22, 0x5c], ∀ n ∈ List.range 0x20 ++ [0x22, 0x5c],
      quotedChar (Char.ofNat m) <+: quotedChar (Char.ofNat n) → m = n := by
    decide +kernel
  have same := apart c.toNat (number hc) d.toNat (number hd)
  rw [Char.ofNat_toNat, Char.ofNat_toNat] at same
  exact Char.toNat_inj.mp (same h)

/-- Where the characters of a literal end does not depend on what follows. -/
theorem quotedChar_append_inj {c d : Char} {rest other : List Char}
    (h : quotedChar c ++ rest = quotedChar d ++ other) : c = d ∧ rest = other := by
  have same : c = d := by
    by_cases hc : IsEscaped c
    · by_cases hd : IsEscaped d
      · rcases List.prefix_or_prefix_of_prefix (List.prefix_append _ rest)
          (h ▸ List.prefix_append _ other) with hp | hp
        · exact eq_of_quotedChar_begins hc hd hp
        · exact (eq_of_quotedChar_begins hd hc hp).symm
      · obtain ⟨tail, ht⟩ := quotedChar_of_isEscaped hc
        rw [ht, quotedChar_of_not_isEscaped hd] at h
        exact absurd (.inr (.inr (List.cons.inj h).1.symm)) hd
    · by_cases hd : IsEscaped d
      · obtain ⟨tail, ht⟩ := quotedChar_of_isEscaped hd
        rw [ht, quotedChar_of_not_isEscaped hc] at h
        exact absurd (.inr (.inr (List.cons.inj h).1)) hc
      · rw [quotedChar_of_not_isEscaped hc, quotedChar_of_not_isEscaped hd] at h
        exact (List.cons.inj h).1
  subst same
  exact ⟨rfl, List.append_cancel_left h⟩

theorem exists_quotedChar_ne_quote (c : Char) :
    ∃ first rest, quotedChar c = first :: rest ∧ first ≠ '"' := by
  by_cases h : IsEscaped c
  · obtain ⟨rest, hr⟩ := quotedChar_of_isEscaped h
    exact ⟨_, rest, hr, by decide⟩
  · exact ⟨c, [], quotedChar_of_not_isEscaped h, fun hc => h (.inr (.inl hc))⟩

/-- A literal is told by itself where it ends. -/
theorem quotedChars_append_inj {text other rest more : List Char}
    (h : quotedChars text ++ rest = quotedChars other ++ more) : text = other ∧ rest = more := by
  simp only [quotedChars, List.cons_append, List.append_assoc, List.nil_append,
    List.cons.injEq, true_and] at h
  induction text generalizing other with
  | nil =>
    cases other with
    | nil => exact ⟨rfl, (List.cons.inj h).2⟩
    | cons d other =>
      obtain ⟨first, tail, hd, hne⟩ := exists_quotedChar_ne_quote d
      rw [List.flatMap_cons, hd] at h
      exact absurd (List.cons.inj h).1.symm hne
  | cons c text ih =>
    cases other with
    | nil =>
      obtain ⟨first, tail, hc, hne⟩ := exists_quotedChar_ne_quote c
      rw [List.flatMap_cons, hc] at h
      exact absurd (List.cons.inj h).1 hne
    | cons d other =>
      rw [List.flatMap_cons, List.flatMap_cons, List.append_assoc, List.append_assoc] at h
      obtain ⟨rfl, hr⟩ := quotedChar_append_inj h
      obtain ⟨rfl, same⟩ := ih hr
      exact ⟨rfl, same⟩

/-- Different texts have different literals. -/
theorem quote_injective : Function.Injective quote := by
  intro text other h
  have chars := congrArg (· ++ []) (String.ofList_injective h)
  exact String.toList_inj.mp (quotedChars_append_inj chars).1

end CheckedTypes
