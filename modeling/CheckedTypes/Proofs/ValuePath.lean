import CheckedTypes.Proofs.QuotedText
import CheckedTypes.Proofs.ValidatorRows
import Mathlib

namespace CheckedTypes

/-- What stands in front of a mark is told by the first mark. -/
theorem append_cons_inj_of_not_mem {c : Char} {text other rest more : List Char} (h : c ∉ text)
    (h' : c ∉ other) (same : text ++ c :: rest = other ++ c :: more) :
    text = other ∧ rest = more := by
  rcases List.append_eq_append_iff.mp same with ⟨part, rfl, hp⟩ | ⟨part, rfl, hp⟩
  · cases part with
    | nil => exact ⟨(List.append_nil _).symm, (List.cons.inj hp).2⟩
    | cons d part =>
      cases (List.cons.inj hp).1
      exact absurd (by simp) h'
  · cases part with
    | nil => exact ⟨List.append_nil _, (List.cons.inj hp).2.symm⟩
    | cons d part =>
      cases (List.cons.inj hp).1
      exact absurd (by simp) h

/-- Texts of which each tells where it ends are read off one after the other. -/
theorem flatMap_injective_of_append_inj {α : Type} {text : α → List Char} (shown : ∀ a, text a ≠ [])
    (told : ∀ a b rest more, text a ++ rest = text b ++ more → a = b ∧ rest = more) :
    Function.Injective fun list : List α => list.flatMap text := by
  intro list
  induction list with
  | nil =>
    rintro (_ | ⟨b, others⟩) h
    · rfl
    · exact absurd (List.append_eq_nil_iff.mp h.symm).1 (shown b)
  | cons a list ih =>
    rintro (_ | ⟨b, others⟩) h
    · exact absurd (List.append_eq_nil_iff.mp h).1 (shown a)
    · obtain ⟨rfl, same⟩ := told a b _ _ h
      exact congrArg (a :: ·) (ih same)

/-- A quoted name is told from what follows its bracket. -/
theorem bracketed_name_append_inj {name other : String} {rest more : List Char}
    (h : (quotedChars name.toList ++ [']']) ++ rest = (quotedChars other.toList ++ [']']) ++ more) :
    name = other ∧ rest = more := by
  rw [List.append_assoc, List.append_assoc] at h
  obtain ⟨names, same⟩ := quotedChars_append_inj h
  exact ⟨String.toList_inj.mp names, (List.cons.inj same).2⟩

/-- A number is told from what follows its bracket. -/
theorem bracketed_number_append_inj {number other : Nat} {rest more : List Char}
    (h : ((toString number).toList ++ [']']) ++ rest =
      ((toString other).toList ++ [']']) ++ more) :
    number = other ∧ rest = more := by
  rw [List.append_assoc, List.append_assoc] at h
  obtain ⟨digits, same⟩ := append_cons_inj_of_not_mem (not_mem_toString (by decide) number)
    (not_mem_toString (by decide) other) h
  exact ⟨Nat.repr_injective (String.toList_inj.mp digits), same⟩

namespace ValueStep

theorem text_key (name : String) :
    (key name).text.toList = '[' :: (quotedChars name.toList ++ [']']) := by
  simp [text, quote]

theorem text_index (position : Nat) :
    (index position).text.toList = '[' :: ((toString position).toList ++ [']']) := by
  simp [text]

/-- A position is not written like a name. -/
theorem key_ne_index {name : String} {position : Nat} {rest more : List Char} :
    (key name).text.toList ++ rest ≠ (index position).text.toList ++ more := by
  intro h
  rw [text_key, text_index] at h
  have quoted : '"' ∉ (toString position).toList := not_mem_toString (by decide) position
  cases hd : (toString position).toList with
  | nil =>
    rw [hd] at h
    cases h
  | cons digit digits =>
    rw [hd] at h quoted
    cases (List.cons.inj (List.cons.inj h).2).1
    exact quoted List.mem_cons_self

/-- Where a step ends, and which one it is, does not depend on what follows. -/
theorem text_append_inj {step other : ValueStep} {rest more : List Char}
    (h : step.text.toList ++ rest = other.text.toList ++ more) : step = other ∧ rest = more := by
  cases step with
  | key name =>
    cases other with
    | key other =>
      rw [text_key, text_key] at h
      exact (bracketed_name_append_inj (List.cons.inj h).2).imp_left (congrArg key)
    | index position => exact absurd h key_ne_index
  | index position =>
    cases other with
    | key name => exact absurd h.symm key_ne_index
    | index other =>
      rw [text_index, text_index] at h
      exact (bracketed_number_append_inj (List.cons.inj h).2).imp_left (congrArg index)

theorem text_ne_nil (step : ValueStep) : step.text.toList ≠ [] := by
  cases step with
  | key name => simp [text_key]
  | index position => simp [text_index]

theorem flatMap_text_injective :
    Function.Injective fun path : List ValueStep => path.flatMap (·.text.toList) :=
  flatMap_injective_of_append_inj text_ne_nil fun _ _ _ _ => text_append_inj

end ValueStep

/-- A path can be read off its text. -/
theorem valuePathText_injective : Function.Injective valuePathText := by
  intro path other h
  have chars := congrArg String.toList h
  simp only [valuePathText, String.toList_join, List.flatMap_map] at chars
  exact ValueStep.flatMap_text_injective chars

end CheckedTypes
