import CheckedTypes.Proofs.PatternUse
import CheckedTypes.Proofs.ValidatorLines

namespace CheckedTypes

open Statement

/-- What a line says behind its indentation. -/
def unindented (line : List Char) : List Char :=
  line.dropWhile fun c => c == ' ' || c == '\t'

namespace Target

/-- The line that tests a pattern. -/
def patternTest (target : Target) (use : PatternUse) : String :=
  target.ifHeader (negate (Helper.pattern.call target
    [patternVariable use.index, target.valueArgument use.cursor .string use.optional]))

def testStart : Target → List Char
  | go => "if !".toList
  | typescript => "if (!".toList

/-- Whether a line tests a pattern. The call is in parentheses where it consists of several
words. -/
def testsPattern (target : Target) (line : List Char) : Bool :=
  let call := (Helper.pattern.name target).toList ++ ['(']
  (target.testStart ++ call).isPrefixOf line || (target.testStart ++ '(' :: call).isPrefixOf line

variable {target : Target} {expression : String}

theorem ifHeader_negate (target : Target) (expression : String) :
    ∃ rest, (target.ifHeader (negate expression)).toList =
        target.testStart ++ (expression.toList ++ rest) ∨
      (target.ifHeader (negate expression)).toList =
        target.testStart ++ '(' :: (expression.toList ++ rest) := by
  unfold negate
  split
  next =>
    cases target with
    | go => exact ⟨") \x7b".toList, .inr (by simp [ifHeader, testStart])⟩
    | typescript => exact ⟨")) \x7b".toList, .inr (by simp [ifHeader, testStart])⟩
  next =>
    cases target with
    | go => exact ⟨" \x7b".toList, .inl (by simp [ifHeader, testStart])⟩
    | typescript => exact ⟨") \x7b".toList, .inl (by simp [ifHeader, testStart])⟩

theorem testsPattern_patternTest (target : Target) (use : PatternUse) :
    target.testsPattern (target.patternTest use).toList = true := by
  obtain ⟨rest, h⟩ := target.ifHeader_negate (Helper.pattern.call target
    [patternVariable use.index, target.valueArgument use.cursor .string use.optional])
  unfold testsPattern patternTest
  simp only [Bool.or_eq_true, List.isPrefixOf_iff_prefix]
  rcases h with h | h
  · refine .inl (h ▸ ?_)
    simp [Helper.call]
  · refine .inr (h ▸ ?_)
    simp [Helper.call]

/-- The test of anything that begins otherwise is no test of a pattern. -/
theorem not_testsPattern_of_head? {c : Char} (h : expression.toList.head? = some c)
    (hc : c ∉ ['(', 'P', 'p']) :
    target.testsPattern (target.ifHeader (negate expression)).toList = false := by
  obtain ⟨more, hm⟩ := List.head?_eq_some_iff.mp h
  obtain ⟨rest, he⟩ := target.ifHeader_negate expression
  simp only [List.mem_cons, List.not_mem_nil, or_false, not_or] at hc
  obtain ⟨bracket, upper, lower⟩ := hc
  unfold testsPattern
  rcases he with he | he <;> rw [he, hm] <;> cases target <;>
    simp [testStart, Helper.name, List.isPrefixOf, Ne.symm bracket, Ne.symm upper, Ne.symm lower]

end Target

theorem Helper.head?_call (target : Target) (helper : Helper) (arguments : List String) :
    (helper.call target arguments).toList.head? = (helper.name target).toList.head? := by
  unfold Helper.call
  rw [String.toList_append, String.toList_append, String.toList_append, List.append_assoc,
    List.append_assoc, List.head?_append]
  cases target <;> cases helper <;> rfl

theorem Target.head?_expression {target : Target} {cursor : Cursor}
    (root : cursor.root = rootVariable) : (target.expression cursor).toList.head? = some 'm' := by
  unfold expression Cursor.expression
  rw [root, String.toList_append]
  rfl

/-- A check of anything but a pattern begins in a way of its own. -/
theorem Predicate.head?_text {predicate : Predicate} (target : Target)
    (root : predicate.cursor.root = Target.rootVariable)
    (silent : (Row.test predicate).patternUse? = none) :
    ∃ c, (predicate.text target).toList.head? = some c ∧ c ∉ ['(', 'P', 'p'] := by
  have call (helper : Helper) (arguments : List String) {c : Char}
      (h : (helper.name target).toList.head? = some c) (hc : c ∉ ['(', 'P', 'p']) :
      ∃ c, (helper.call target arguments).toList.head? = some c ∧ c ∉ ['(', 'P', 'p'] :=
    ⟨c, (Helper.head?_call target helper arguments).trans h, hc⟩
  cases predicate with
  | present cursor =>
    cases target with
    | go =>
      refine ⟨'m', ?_, by decide⟩
      have start : cursor.root = Target.rootVariable := root
      change (Target.go.expression cursor ++ " != nil").toList.head? = some 'm'
      rw [String.toList_append, List.head?_append, Target.head?_expression start]
      rfl
    | typescript =>
      refine ⟨'i', ?_, by decide⟩
      change ("isPresent(" ++ Target.typescript.expression cursor ++ ")").toList.head? = some 'i'
      rw [String.toList_append, String.toList_append]
      rfl
  | member object name =>
    cases target with
    | go =>
      refine ⟨'r', ?_, by decide⟩
      change ("rawHas(" ++ Target.commaSeparated ("raw" :: (object.rawArguments ++ [quote name])) ++
        ")").toList.head? = some 'r'
      rw [String.toList_append, String.toList_append]
      rfl
    | typescript =>
      refine ⟨'h', ?_, by decide⟩
      change ("hasMember(" ++ Target.typescript.expression object ++ ", " ++ quote name ++
        ")").toList.head? = some 'h'
      simp only [String.toList_append]
      rfl
  | integer =>
    cases target with
    | go => exact call .integer _ rfl (by decide)
    | typescript => exact call .integer _ rfl (by decide)
  | number =>
    cases target with
    | go => exact call .number _ rfl (by decide)
    | typescript => exact call .number _ rfl (by decide)
  | length =>
    cases target with
    | go => exact call .string _ rfl (by decide)
    | typescript => exact call .string _ rfl (by decide)
  | pattern => cases silent
  | array =>
    cases target with
    | go => exact call .array _ rfl (by decide)
    | typescript => exact call .array _ rfl (by decide)

namespace Row

theorem text_of_patternUse? {row : Row} {use : PatternUse} (h : row.patternUse? = some use)
    (target : Target) : row.text target = target.patternTest use := by
  unfold Row.patternUse? at h
  split at h
  next =>
    cases h
    rfl
  next => cases h

theorem unindented_line (target : Target) (row : Nat × Row) :
    unindented (line target row) = (row.2.text target).toList :=
  dropWhile_line (by cases target <;> simp [Target.tab]) row
    (by cases row.2 <;> cases target <;> simp [Row.first])

/-- The lines that test a pattern are told from the others by how they begin. -/
theorem testsPattern_text {row : Row} (target : Target)
    (root : ∀ cursor ∈ row.cursors, cursor.root = Target.rootVariable) :
    target.testsPattern (row.text target).toList = row.patternUse?.isSome := by
  cases hu : row.patternUse? with
  | some use => rw [text_of_patternUse? hu, Target.testsPattern_patternTest, Option.isSome_some]
  | none =>
    cases row with
    | test predicate =>
      obtain ⟨c, hc, other⟩ := Predicate.head?_text target (root _ List.mem_cons_self) hu
      exact Target.not_testsPattern_of_head? hc other
    | guard cursor =>
      have start : cursor.root = Target.rootVariable := root _ List.mem_cons_self
      cases target with
      | go =>
        obtain ⟨rest, hr⟩ := List.head?_eq_some_iff.mp (@Target.head?_expression .go _ start)
        change Target.go.testsPattern
          ("if " ++ (Target.go.expression cursor ++ " != nil") ++ " \x7b").toList = false
        simp only [String.toList_append, hr]
        rfl
      | typescript =>
        change Target.typescript.testsPattern ("if (" ++ ("isPresent(" ++
          Target.typescript.expression cursor ++ ")") ++ ") \x7b").toList = false
        simp only [String.toList_append]
        rfl
    | _ =>
      obtain ⟨rest, hr⟩ := List.head?_eq_some_iff.mp (head?_text _ target)
      rw [hr]
      cases target <;> rfl

end Row

/-- The lines that test patterns are those of the checks of patterns, in the same order. -/
theorem Statement.filter_testsPattern {statements : List Statement} (target : Target)
    (root : ∀ cursor ∈ cursorsAll statements, cursor.root = Target.rootVariable) (depth : Nat) :
    (((rowsAll depth statements).map (Row.line target)).map unindented).filter
        target.testsPattern =
      (patternUses statements).map fun use => (target.patternTest use).toList := by
  have each : ∀ row ∈ rowsAll depth statements,
      target.testsPattern (row.2.text target).toList = row.2.patternUse?.isSome :=
    fun row hr => Row.testsPattern_text target fun cursor hc =>
      root cursor (mem_cursorsAll_of_mem_rowsAll hr hc)
  rw [← filterMap_rowsAll depth]
  generalize rowsAll depth statements = rows at each ⊢
  induction rows with
  | nil => rfl
  | cons row rest ih =>
    obtain ⟨first, others⟩ := List.forall_mem_cons.mp each
    rw [List.map_cons, List.map_cons, Row.unindented_line, List.filter_cons, first,
      List.filterMap_cons]
    cases hu : row.2.patternUse? with
    | none => exact ih others
    | some use =>
      rw [Row.text_of_patternUse? hu]
      exact congrArg ((target.patternTest use).toList :: ·) (ih others)

/-- The lines of the validators that test patterns are those of the checks of patterns. -/
theorem TypeTable.Renders.patternTests {table : TypeTable} {target : Target}
    {modulePath text : String} {validated : List String} {items : List FileItem}
    {file : FileParts} (h : table.Renders target modulePath text validated items file)
    (names : target = .typescript ∨ table.NamesOnOneLine) {item : FileItem} (hm : item ∈ items) :
    ((target.validatorLines item.checks).map unindented).filter target.testsPattern =
      (patternUses item.checks).map fun use => (target.patternTest use).toList := by
  let Rooted (cursor : Cursor) : Prop := cursor.root = Target.rootVariable
  have start : Rooted FileParts.root := rfl
  have root : ∀ cursor ∈ cursorsAll item.checks, Rooted cursor :=
    h.forall_mem_cursorsAll start (fun _ same => same) (fun _ _ _ _ _ same => same) hm
  rw [h.validatorLines_eq names hm]
  exact filter_testsPattern target root target.validatorDepth

end CheckedTypes
