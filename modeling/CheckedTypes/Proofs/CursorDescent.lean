import CheckedTypes.Proofs.ContainedPlace
import CheckedTypes.Proofs.ValuePath

namespace CheckedTypes

namespace RawSegment

/-- The variable that a segment stands for. -/
def counter? : RawSegment → Option String
  | key _ => none
  | index level => some (loopVariable level)

def text : RawSegment → String
  | key name => "[" ++ quote name ++ "]"
  | index level => "[" ++ loopVariable level ++ "]"

/-- The step that a segment is left by. -/
def descentStep : RawSegment → DescentStep
  | key name => .field name
  | index _ => .element

theorem text_key (name : String) :
    (key name).text.toList = '[' :: (quotedChars name.toList ++ [']']) := by
  simp [text, quote]

theorem text_index (level : Nat) :
    (index level).text.toList = '[' :: 'i' :: ((toString level).toList ++ [']']) := by
  simp [text, loopVariable]

theorem text_ne_nil (segment : RawSegment) : segment.text.toList ≠ [] := by
  cases segment with
  | key name => simp [text_key]
  | index level => simp [text_index]

/-- Where a segment ends, and which one it is, does not depend on what follows: a name begins with a
quote and ends as a literal does, a variable begins with its letter and ends at the bracket. -/
theorem text_append_inj {segment other : RawSegment} {rest more : List Char}
    (h : segment.text.toList ++ rest = other.text.toList ++ more) :
    segment = other ∧ rest = more := by
  cases segment with
  | key name =>
    cases other with
    | key other =>
      rw [text_key, text_key] at h
      exact (bracketed_name_append_inj (List.cons.inj h).2).imp_left (congrArg key)
    | index level =>
      simp [text_key, text_index, quotedChars] at h
  | index level =>
    cases other with
    | key name =>
      simp [text_key, text_index, quotedChars] at h
    | index other =>
      rw [text_index, text_index] at h
      have digits := (List.cons.inj (List.cons.inj h).2).2
      exact (bracketed_number_append_inj digits).imp_left (congrArg index)

end RawSegment

/-- What is kept of a descent: an accessor and a segment for each step, and how many loops have been
entered. -/
structure Trail where
  accessors : List String := []
  segments : List RawSegment := []
  loops : Nat := 0

namespace Trail

def push (fieldAccessor : String → String) (trail : Trail) : DescentStep → Trail
  | .field name =>
    { trail with
      accessors := trail.accessors ++ [fieldAccessor name]
      segments := trail.segments ++ [.key name] }
  | .element =>
    { accessors := trail.accessors ++ ["[" ++ loopVariable trail.loops ++ "]"]
      segments := trail.segments ++ [.index trail.loops]
      loops := trail.loops + 1 }

/-- Both lists have an entry for each step, and the loops are numbered in the order in which they
are entered. -/
structure InStep (trail : Trail) (steps : List DescentStep) : Prop where
  accessors_length : trail.accessors.length = steps.length
  segments_length : trail.segments.length = steps.length
  loops_eq : trail.loops = steps.count .element
  counters : trail.segments.filterMap RawSegment.counter? =
    (List.range trail.loops).map loopVariable

theorem InStep.push {trail : Trail} {steps : List DescentStep} (h : trail.InStep steps)
    (fieldAccessor : String → String) (step : DescentStep) :
    (trail.push fieldAccessor step).InStep (steps ++ [step]) := by
  obtain ⟨accessors, segments, loops, counters⟩ := h
  cases step with
  | field name =>
    refine ⟨by simp [Trail.push, accessors], by simp [Trail.push, segments],
      by simp [Trail.push, loops], ?_⟩
    simp [Trail.push, RawSegment.counter?, counters]
  | element =>
    refine ⟨by simp [Trail.push, accessors], by simp [Trail.push, segments],
      by simp [Trail.push, loops], ?_⟩
    simp [Trail.push, RawSegment.counter?, counters, List.range_succ]

theorem InStep.pushAll {trail : Trail} {steps : List DescentStep} (h : trail.InStep steps)
    (fieldAccessor : String → String) (more : List DescentStep) :
    (more.foldl (Trail.push fieldAccessor) trail).InStep (steps ++ more) := by
  induction more generalizing trail steps with
  | nil => simpa using h
  | cons step rest ih =>
    have next := ih (h.push fieldAccessor step)
    simpa using next

end Trail

namespace Cursor

def down (cursor : Cursor) : DescentStep → Cursor
  | .field name => cursor.field name
  | .element => cursor.element

def descend (cursor : Cursor) (steps : List DescentStep) : Cursor :=
  steps.foldl down cursor

def trail (fieldAccessor : String → String) (cursor : Cursor) : Trail :=
  ⟨cursor.accessors fieldAccessor, cursor.raw, cursor.level⟩

theorem trail_down (fieldAccessor : String → String) (cursor : Cursor) (step : DescentStep) :
    (cursor.down step).trail fieldAccessor =
      (cursor.trail fieldAccessor).push fieldAccessor step := by
  cases step with
  | field name =>
    simp [trail, down, Trail.push, accessors, raw_field, level_field]
  | element =>
    simp [trail, down, Trail.push, accessors, raw_element, level_element]

/-- A place is what the steps to it have left. -/
theorem trail_descend (fieldAccessor : String → String) (cursor : Cursor)
    (steps : List DescentStep) :
    (cursor.descend steps).trail fieldAccessor =
      steps.foldl (Trail.push fieldAccessor) (cursor.trail fieldAccessor) := by
  unfold descend
  induction steps generalizing cursor with
  | nil => rfl
  | cons step rest ih => rw [List.foldl_cons, List.foldl_cons, ih, trail_down]

theorem descend_eq (cursor : Cursor) (steps : List DescentStep) :
    cursor.descend steps = { cursor with steps := cursor.steps ++ steps } := by
  unfold descend
  induction steps generalizing cursor with
  | nil => simp
  | cons step rest ih =>
    rw [List.foldl_cons, ih]
    cases step <;> simp [down, field, element]

theorem map_descentStep_rawFrom (level : Nat) (steps : List DescentStep) :
    (rawFrom level steps).map RawSegment.descentStep = steps := by
  induction steps generalizing level with
  | nil => rfl
  | cons step rest ih =>
    cases step <;> simp [rawFrom, RawSegment.descentStep, ih]

theorem display_toList (cursor : Cursor) :
    cursor.display.toList = cursor.raw.flatMap (·.text.toList) := by
  have segments : cursor.display = String.join (cursor.raw.map RawSegment.text) := by
    unfold display
    refine congrArg String.join (List.map_congr_left fun segment _ => ?_)
    cases segment <;> rfl
  rw [segments, String.toList_join, List.flatMap_map]

/-- The steps to a place are read off how it is shown. -/
theorem steps_of_display {cursor other : Cursor} (h : cursor.display = other.display) :
    cursor.steps = other.steps := by
  have chars := congrArg String.toList h
  rw [display_toList, display_toList] at chars
  have segments : cursor.raw = other.raw :=
    flatMap_injective_of_append_inj RawSegment.text_ne_nil
      (fun _ _ _ _ => RawSegment.text_append_inj) chars
  have steps := congrArg (List.map RawSegment.descentStep) segments
  rwa [raw, raw, map_descentStep_rawFrom, map_descentStep_rawFrom] at steps

/-- TypeScript takes a member by its quoted name, as it is shown. -/
theorem typescript_expression_eq (cursor : Cursor) :
    Target.typescript.expression cursor = cursor.root ++ cursor.display := by
  unfold Target.expression expression accessors display
  refine congrArg (cursor.root ++ String.join ·) (List.map_congr_left fun segment _ => ?_)
  cases segment <;> rfl

/-- A place tells the descent that has led to it. Each step leaves one accessor and one segment, and
the loops are numbered from the outside in, the next one by a number that is not in use. No two
descents are shown alike, nor written alike in TypeScript from one variable, whatever characters
their names hold. -/
theorem descent_of_cursor (target : Target) (root other : String) (steps more : List DescentStep) :
    (descend { root } steps).trail target.fieldAccessor =
        steps.foldl (Trail.push target.fieldAccessor) {} ∧
      ((descend { root } steps).accessors target.fieldAccessor).length = steps.length ∧
      (descend { root } steps).raw.length = steps.length ∧
      (descend { root } steps).raw.filterMap RawSegment.counter? =
        (List.range (steps.count .element)).map loopVariable ∧
      (descend { root } steps).loopVar = loopVariable (steps.count .element) ∧
      (descend { root } steps).loopVar ∉
        (descend { root } steps).raw.filterMap RawSegment.counter? ∧
      ((descend { root } steps).display = (descend { root := other } more).display ↔
        steps = more) ∧
      (Target.typescript.expression (descend { root } steps) =
        Target.typescript.expression (descend { root } more) ↔ steps = more) := by
  have same : (descend { root } steps).trail target.fieldAccessor =
      steps.foldl (Trail.push target.fieldAccessor) {} := trail_descend _ _ _
  have start : Trail.InStep {} [] := ⟨rfl, rfl, rfl, rfl⟩
  have kept := start.pushAll target.fieldAccessor steps
  rw [← same, List.nil_append] at kept
  have loops : (descend { root } steps).level = steps.count .element := kept.loops_eq
  have counters : (descend { root } steps).raw.filterMap RawSegment.counter? =
      (List.range (steps.count .element)).map loopVariable := loops ▸ kept.counters
  have unused : loopVariable (steps.count .element) ∉
      (List.range (steps.count .element)).map loopVariable := by
    intro hm
    obtain ⟨level, hl, used⟩ := List.mem_map.mp hm
    have lower := List.mem_range.mp hl
    have number := loopVariable_injective used
    omega
  have shown : (descend { root } steps).display = (descend { root := other } more).display ↔
      steps = more := by
    refine ⟨fun same => ?_, ?_⟩
    · have read := steps_of_display same
      simpa [descend_eq] using read
    · rintro rfl
      simp [descend_eq, display, raw]
  have written : Target.typescript.expression (descend { root } steps) =
      Target.typescript.expression (descend { root } more) ↔ steps = more := by
    refine ⟨fun same => ?_, fun same => by rw [same]⟩
    rw [typescript_expression_eq, typescript_expression_eq, descend_eq, descend_eq] at same
    have read := steps_of_display (String.append_right_inj _ |>.mp same)
    simpa using read
  refine ⟨same, kept.accessors_length, kept.segments_length, counters, congrArg _ loops, ?_, shown,
    written⟩
  rw [counters, loopVar, loops]
  exact unused

/-- A name with quotes and brackets is shown as one step. -/
example : (descend { root := "main" } [.field "a\"][i0", .element, .field "b"]).display =
    "[\"a\\\"][i0\"][i0][\"b\"]" := by decide

end Cursor

end CheckedTypes
