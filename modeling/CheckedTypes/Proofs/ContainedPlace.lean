import CheckedTypes.Proofs.CheckedParts
import CheckedTypes.Proofs.PatternPlace
import Mathlib

namespace CheckedTypes

namespace Cursor

/-- One place is the other or contains it. -/
def LeadsTo (cursor other : Cursor) : Prop :=
  cursor.root = other.root ∧ cursor.steps <+: other.steps

theorem eq_of_leadsTo {cursor other : Cursor} (h : cursor.LeadsTo other)
    (steps : other.steps = []) : cursor = other := by
  obtain ⟨root, more⟩ := cursor
  obtain ⟨_, rest⟩ := other
  obtain ⟨rfl, leads⟩ := h
  cases steps
  exact congrArg (Cursor.mk root) (List.prefix_nil.mp leads)

theorem LeadsTo.refl (cursor : Cursor) : cursor.LeadsTo cursor :=
  ⟨rfl, List.prefix_refl _⟩

theorem LeadsTo.trans {cursor other third : Cursor} (h : cursor.LeadsTo other)
    (h' : other.LeadsTo third) : cursor.LeadsTo third :=
  ⟨h.1.trans h'.1, h.2.trans h'.2⟩

theorem leadsTo_field (cursor : Cursor) (name : String) : cursor.LeadsTo (cursor.field name) :=
  ⟨rfl, List.prefix_append _ _⟩

theorem leadsTo_element (cursor : Cursor) : cursor.LeadsTo cursor.element :=
  ⟨rfl, List.prefix_append _ _⟩

theorem leadsTo_append_iff {cursor other : Cursor} {step : DescentStep} :
    cursor.LeadsTo { other with steps := other.steps ++ [step] } ↔
      cursor = { other with steps := other.steps ++ [step] } ∨ cursor.LeadsTo other := by
  obtain ⟨root, steps⟩ := cursor
  simp only [LeadsTo, List.prefix_concat_iff, mk.injEq, and_or_left]

theorem element_injective : Function.Injective element := by
  rintro ⟨root, steps⟩ ⟨other, more⟩ h
  obtain ⟨rfl, same⟩ := Cursor.mk.inj h
  exact congrArg (Cursor.mk root) (List.append_cancel_right same)

theorem element_ne_field {cursor other : Cursor} {name : String} :
    cursor.element ≠ other.field name := by
  intro h
  cases (List.append_inj' (Cursor.mk.inj h).2 rfl).2

theorem level_element (cursor : Cursor) : cursor.element.level = cursor.level + 1 := by
  simp [level, element]

theorem level_field (cursor : Cursor) (name : String) :
    (cursor.field name).level = cursor.level := by
  simp [level, field]

theorem exists_of_mem_rawFrom {level other : Nat} {steps : List DescentStep}
    (h : .index other ∈ rawFrom level steps) : ∃ before after,
      steps = before ++ .element :: after ∧ other = level + before.count .element := by
  induction steps generalizing level with
  | nil => cases h
  | cons step rest ih =>
    cases step with
    | field name =>
      obtain ⟨before, after, rfl, rfl⟩ := ih (by simpa [rawFrom] using h)
      exact ⟨.field name :: before, after, rfl, by simp⟩
    | element =>
      rw [rawFrom] at h
      rcases List.mem_cons.mp h with he | h
      · cases he
        exact ⟨[], rest, rfl, rfl⟩
      · obtain ⟨before, after, rfl, rfl⟩ := ih h
        exact ⟨.element :: before, after, rfl, by simp; omega⟩

theorem mem_raw_of_leadsTo {array cursor : Cursor} (h : array.element.LeadsTo cursor) :
    .index array.level ∈ cursor.raw := by
  obtain ⟨-, after, split⟩ := h
  have counted : .index array.level ∈ array.element.raw := by simp [raw_element]
  rw [raw, ← split, rawFrom_append]
  exact List.mem_append_left _ counted

/-- Each counter of a place belongs to an array on the way. -/
theorem exists_array_of_mem_raw {cursor : Cursor} {level : Nat} (h : .index level ∈ cursor.raw) :
    ∃ array : Cursor, array.level = level ∧ array.element.LeadsTo cursor := by
  obtain ⟨before, after, split, rfl⟩ := exists_of_mem_rawFrom h
  refine ⟨⟨cursor.root, before⟩, (Nat.zero_add _).symm, rfl, ?_⟩
  exact ⟨after, by rw [split]; simp [element]⟩

theorem loopVariable_injective : Function.Injective loopVariable := by
  intro level other h
  simp only [loopVariable, String.append_right_inj] at h
  exact Nat.repr_injective h

theorem loopVar_injective {cursor other : Cursor} (h : cursor.loopVar = other.loopVar) :
    cursor.level = other.level :=
  loopVariable_injective h

end Cursor

namespace TypePlace

/-- The part of a type at a step and whether it may be absent; nothing is known about what is behind
a reference. -/
def part? (place : TypePlace) : DescentStep → Option TypePlace
  | .element =>
    match place.node with
    | .array (some items) _ _ => some ⟨place.cursor.element, false, items⟩
    | _ => none
  | .field name =>
    match place.node with
    | .object properties required =>
      (properties.lookup name).map fun node =>
        ⟨place.cursor.field name, !requires required name, node⟩
    | _ => none

/-- The second type is a part of the first, reached by steps. -/
def Contains (place part : TypePlace) : Prop :=
  ∃ steps : List DescentStep, steps.foldlM part? place = some part

/-- A value that may be absent and that has parts. -/
def NeedsGuard (place : TypePlace) : Prop :=
  place.optional = true ∧ place.node.isComposite = true

theorem part?_cursor {place part : TypePlace} {step : DescentStep}
    (h : place.part? step = some part) :
    part.cursor = { place.cursor with steps := place.cursor.steps ++ [step] } := by
  unfold part? at h
  split at h
  next =>
    split at h
    next =>
      cases h
      rfl
    next => cases h
  next =>
    split at h
    next =>
      obtain ⟨node, -, rfl⟩ := Option.map_eq_some_iff.mp h
      rfl
    next => cases h

theorem cursor_of_foldlM {place part : TypePlace} {steps : List DescentStep}
    (h : steps.foldlM part? place = some part) :
    part.cursor = { place.cursor with steps := place.cursor.steps ++ steps } := by
  induction steps generalizing place with
  | nil =>
    cases h
    simp
  | cons step rest ih =>
    rw [List.foldlM_cons] at h
    obtain ⟨next, hn, h⟩ := Option.bind_eq_some_iff.mp h
    rw [ih h, part?_cursor hn]
    simp

/-- The parts of a type are told by where they are. -/
theorem Contains.eq_of_cursor_eq {place part other : TypePlace} (h : place.Contains part)
    (h' : place.Contains other) (same : part.cursor = other.cursor) : part = other := by
  obtain ⟨steps, hs⟩ := h
  obtain ⟨more, hm⟩ := h'
  rw [cursor_of_foldlM hs, cursor_of_foldlM hm] at same
  have steps := List.append_cancel_left (Cursor.mk.inj same).2
  rw [steps, hm] at hs
  exact (Option.some.inj hs).symm

theorem Contains.part {place part next : TypePlace} {step : DescentStep} (h : place.Contains part)
    (hn : part.part? step = some next) : place.Contains next := by
  obtain ⟨steps, hs⟩ := h
  refine ⟨steps ++ [step], ?_⟩
  rw [List.foldlM_append, hs]
  exact (bind_pure _).trans hn

end TypePlace

end CheckedTypes
