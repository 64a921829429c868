import CheckedTypes.Naming
import Mathlib

namespace CheckedTypes

theorem renderName_toList (segment : String) : (renderName segment).toList =
    (segment.toList.map fun c => if c = '-' then '_' else c).modifyHead Char.toUpper := by
  unfold renderName
  split
  next hs => rw [hs]; rfl
  next hs => rw [hs, String.toList_ofList]; rfl

theorem eq_of_toUpper_eq {c d : Char} (h : c.toUpper = d) (plain : d.isUpper = false) : c = d := by
  by_cases low : c.isLower
  · have upper : d.isUpper = true := by
      rw [← h, Char.isUpper_toUpper_eq_isAlpha, Char.isAlpha, low, Bool.or_true]
    simp [plain] at upper
  · rwa [Char.toUpper_eq_of_not_isLower low] at h

/-- Rendering brings in no characters but underscores and capitals, and it leaves no hyphens. -/
theorem mem_of_mem_renderName {segment : String} {c : Char} (h : c ∈ (renderName segment).toList)
    (underscore : c ≠ '_') (capital : c.isUpper = false) : c ∈ segment.toList ∧ c ≠ '-' := by
  have replaced : c ∈ segment.toList.map fun c => if c = '-' then '_' else c := by
    rw [renderName_toList] at h
    cases hs : segment.toList.map fun c => if c = '-' then '_' else c with
    | nil => simp [hs] at h
    | cons first rest =>
      rw [hs, List.modifyHead_cons] at h
      rcases List.mem_cons.mp h with upper | h
      · exact List.mem_cons.mpr (.inl (eq_of_toUpper_eq upper.symm capital).symm)
      · exact List.mem_cons_of_mem _ h
  obtain ⟨d, hd, he⟩ := List.mem_map.mp replaced
  split at he
  next => exact absurd he.symm underscore
  next hyphen => exact he ▸ ⟨hd, hyphen⟩

/-- What rendering leaves as it is: a text without hyphens whose first character is no lower-case
letter. -/
structure IsRendered (text : List Char) : Prop where
  no_hyphen : '-' ∉ text
  no_lower : ∀ c ∈ text.head?, c.isLower = false

theorem isRendered_renderName (segment : String) : IsRendered (renderName segment).toList where
  no_hyphen h := (mem_of_mem_renderName h (by decide) (by decide)).2 rfl
  no_lower c hc := by
    rw [renderName_toList, List.head?_modifyHead] at hc
    obtain ⟨first, -, rfl⟩ := Option.map_eq_some_iff.mp hc
    exact Char.isLower_toUpper_eq_false first

theorem renderName_of_isRendered {text : String} (h : IsRendered text.toList) :
    renderName text = text := by
  have hyphens : (text.toList.map fun c => if c = '-' then '_' else c) = text.toList := by
    refine (List.map_congr_left fun c hc => if_neg ?_).trans (List.map_id _)
    rintro rfl
    exact h.no_hyphen hc
  rw [← String.toList_inj, renderName_toList, hyphens]
  cases ht : text.toList with
  | nil => rfl
  | cons first rest =>
    have low : first.isLower = false := h.no_lower first (by simp [ht])
    rw [List.modifyHead_cons, Char.toUpper_eq_of_not_isLower (by simp [low])]

theorem IsRendered.append {text more : List Char} (first : IsRendered text)
    (second : IsRendered more) : IsRendered (text ++ more) where
  no_hyphen h := (List.mem_append.mp h).elim first.no_hyphen second.no_hyphen
  no_lower c hc := by
    cases text with
    | nil => exact second.no_lower c hc
    | cons d rest => exact first.no_lower c hc

theorem isRendered_renderPath (path : List String) : IsRendered (renderPath path).toList := by
  induction path with
  | nil => exact ⟨by simp [renderPath], by simp [renderPath]⟩
  | cons name rest ih =>
    have joined : (renderPath (name :: rest)).toList =
        (renderName name).toList ++ (renderPath rest).toList := by
      simp [renderPath, String.toList_join]
    rw [joined]
    exact (isRendered_renderName name).append ih

/-- A character of an identifier that is neither an underscore nor a capital is one of a name on
its path. -/
theorem exists_mem_of_mem_renderPath {path : List String} {c : Char}
    (h : c ∈ (renderPath path).toList) (underscore : c ≠ '_') (capital : c.isUpper = false) :
    ∃ name ∈ path, c ∈ name.toList := by
  rw [renderPath, String.toList_join, List.mem_flatMap] at h
  obtain ⟨rendered, hr, hc⟩ := h
  obtain ⟨name, hn, rfl⟩ := List.mem_map.mp hr
  exact ⟨name, hn, (mem_of_mem_renderName hc underscore capital).1⟩

end CheckedTypes
