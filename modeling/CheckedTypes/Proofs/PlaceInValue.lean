import CheckedTypes.Proofs.ValidatorRun

namespace CheckedTypes

namespace Cursor

theorem rawFrom_append (level : Nat) (steps more : List DescentStep) :
    rawFrom level (steps ++ more) =
      rawFrom level steps ++ rawFrom (level + steps.count .element) more := by
  induction steps generalizing level with
  | nil => simp [rawFrom]
  | cons step rest ih =>
    cases step with
    | field name => simp [rawFrom, ih]
    | element => simp [rawFrom, ih, Nat.add_assoc, Nat.add_comm 1]

theorem raw_field (cursor : Cursor) (name : String) :
    (cursor.field name).raw = cursor.raw ++ [.key name] := by
  rw [raw, field, rawFrom_append]
  rfl

theorem raw_element (cursor : Cursor) :
    cursor.element.raw = cursor.raw ++ [.index cursor.level] := by
  rw [raw, element, rawFrom_append, Nat.zero_add]
  rfl

theorem lt_of_mem_rawFrom {level other : Nat} {steps : List DescentStep}
    (h : .index other ∈ rawFrom level steps) : other < level + steps.count .element := by
  induction steps generalizing level with
  | nil => cases h
  | cons step rest ih =>
    cases step with
    | field name => simpa using ih (by simpa [rawFrom] using h)
    | element =>
      rw [rawFrom] at h
      rw [List.count_cons_self]
      rcases List.mem_cons.mp h with he | h
      · cases he
        omega
      · have := ih h
        omega

/-- The loops around a place are those of lower levels. -/
theorem lt_level_of_mem_raw {cursor : Cursor} {level : Nat} (h : .index level ∈ cursor.raw) :
    level < cursor.level := by
  have := lt_of_mem_rawFrom h
  rwa [Nat.zero_add] at this

end Cursor

namespace Scope

theorem path?_down (scope : Scope) {cursor next : Cursor} {segment : RawSegment}
    (hn : next.raw = cursor.raw ++ [segment]) :
    scope.path? next = (scope.path? cursor).bind fun path =>
      (scope.step? segment).map fun step => path ++ [step] := by
  rw [path?, hn, List.mapM_append, path?]
  cases cursor.raw.mapM scope.step? with
  | none => rfl
  | some path => cases hs : scope.step? segment <;> simp [hs]

/-- Entering a loop changes no counter of the loops around it. -/
theorem path?_enter (scope : Scope) (cursor : Cursor) (position : Nat) :
    (scope.enter cursor.level position).path? cursor = scope.path? cursor := by
  have same : ∀ segment ∈ cursor.raw,
      (scope.enter cursor.level position).step? segment = scope.step? segment := by
    intro segment hm
    cases segment with
    | key name => rfl
    | index level =>
      have := Cursor.lt_level_of_mem_raw hm
      simp [step?, enter, Nat.ne_of_lt this]
  unfold path?
  generalize cursor.raw = segments at same
  induction segments with
  | nil => rfl
  | cons segment rest ih =>
    obtain ⟨first, others⟩ := List.forall_mem_cons.mp same
    simp only [List.mapM_cons, first, ih others]

end Scope

end CheckedTypes
