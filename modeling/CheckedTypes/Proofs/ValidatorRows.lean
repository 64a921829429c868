import CheckedTypes.Proofs.DeclaredText
import CheckedTypes.Proofs.PlaceInValue
import CheckedTypes.Proofs.WrittenChecks

namespace CheckedTypes

/-- A line of a validator. -/
inductive Row where
  | test (predicate : Predicate)
  | failure (reason : Reason) (cursor : Cursor)
  | dispatch (ident : String) (cursor : Cursor)
  | guard (cursor : Cursor)
  | loop (cursor : Cursor)
  | blockEnd

namespace Row

def text (target : Target) : Row → String
  | test predicate => target.ifHeader (negate (predicate.text target))
  | failure reason cursor => target.failureText reason.text cursor
  | dispatch ident cursor => target.dispatchText ident cursor
  | guard cursor => target.ifHeader (target.presentText (target.expression cursor))
  | loop cursor => target.loopHeader (target.expression cursor) cursor.loopVar
  | blockEnd => Target.blockEnd

/-- A row at its depth. -/
def line (target : Target) (row : Nat × Row) : List Char :=
  CodeWriter.indented target.tab row.1 (row.2.text target).toList

end Row

/-- The place that a predicate looks at. -/
def Predicate.cursor : Predicate → Cursor
  | present cursor => cursor
  | member object _ => object
  | integer _ cursor _ => cursor
  | number _ cursor _ => cursor
  | length _ cursor _ => cursor
  | pattern _ cursor _ => cursor
  | array _ cursor => cursor

namespace Statement

mutual
/-- The lines of a statement. -/
def rows (depth : Nat) : Statement → List (Nat × Row)
  | .failUnless predicate reason cursor =>
    [(depth, .test predicate), (depth + 1, .failure reason cursor), (depth, .blockEnd)]
  | .dispatch ident cursor => [(depth, .dispatch ident cursor)]
  | .guarded cursor body =>
    (depth, .guard cursor) :: (rowsAll (depth + 1) body ++ [(depth, .blockEnd)])
  | .loop cursor body => (depth, .loop cursor) :: (rowsAll (depth + 1) body ++ [(depth, .blockEnd)])
  | .splice body => rowsAll depth body
def rowsAll (depth : Nat) : List Statement → List (Nat × Row)
  | [] => []
  | statement :: rest => statement.rows depth ++ rowsAll depth rest
end

theorem rowsAll_append (depth : Nat) (statements more : List Statement) :
    rowsAll depth (statements ++ more) = rowsAll depth statements ++ rowsAll depth more := by
  induction statements with
  | nil => rfl
  | cons statement rest ih => rw [List.cons_append, rowsAll, rowsAll, ih, List.append_assoc]

mutual
/-- The places that a statement looks at. -/
def cursors : Statement → List Cursor
  | .failUnless predicate _ cursor => [predicate.cursor, cursor]
  | .dispatch _ cursor => [cursor]
  | .guarded cursor body => cursor :: cursorsAll body
  | .loop cursor body => cursor :: cursorsAll body
  | .splice body => cursorsAll body
def cursorsAll : List Statement → List Cursor
  | [] => []
  | statement :: rest => statement.cursors ++ cursorsAll rest
end

theorem forall_mem_cursorsAll {P : Cursor → Prop} {statements : List Statement} :
    (∀ cursor ∈ cursorsAll statements, P cursor) ↔
      ∀ statement ∈ statements, ∀ cursor ∈ statement.cursors, P cursor := by
  induction statements with
  | nil => simp [cursorsAll]
  | cons statement rest ih =>
    rw [cursorsAll, List.forall_mem_append, ih, List.forall_mem_cons]

end Statement

theorem not_mem_toString {c : Char} (h : c.isDigit = false) (n : Nat) :
    c ∉ (toString n).toList := by
  rw [Nat.toString_eq_ofList_toDigits, String.toList_ofList]
  exact fun hm => Bool.false_ne_true (h.symm.trans
    (Nat.isDigit_of_mem_toDigits (by decide) (by decide) hm))

theorem newline_not_mem_toString (n : Nat) : '\n' ∉ (toString n).toList :=
  not_mem_toString (by decide) n

/-- The digits of a number have at most a point between them. -/
theorem Decimal.mem_positional {d : Decimal} {c : Char} (h : c ∈ (d.positional "").toList) :
    c.isDigit = true ∨ c = '.' := by
  have digits : ∀ c ∈ d.digitChars, c.isDigit = true := fun _ =>
    Nat.isDigit_of_mem_toDigits (by decide) (by decide)
  have zeros (count : Nat) : ∀ c ∈ List.replicate count '0', c.isDigit = true := by
    intro c hc
    rw [List.eq_of_mem_replicate hc]
    rfl
  unfold positional at h
  dsimp only at h
  split at h
  next =>
    simp only [String.append_empty, String.toList_ofList, List.mem_append] at h
    exact .inl (h.elim (digits c) (zeros _ c))
  next =>
    split at h
    next =>
      simp only [String.toList_append, String.toList_ofList, List.mem_append] at h
      rcases h with (h | h) | h
      · exact .inl (digits c (List.mem_of_mem_take h))
      · exact .inr (List.mem_singleton.mp h)
      · exact .inl (digits c (List.mem_of_mem_drop h))
    next =>
      simp only [String.toList_append, String.toList_ofList, List.mem_append] at h
      rcases h with h | h | h
      · rcases List.mem_cons.mp h with rfl | h
        · exact .inl rfl
        · exact .inr (List.mem_singleton.mp h)
      · exact .inl (zeros _ c h)
      · exact .inl (digits c h)

/-- A number, a truth value or the name of a variable. -/
def IsToken (text : String) : Prop :=
  ∀ c ∈ text.toList, c.isAlphanum = true ∨ c = '.' ∨ c = '-'

instance (text : String) : Decidable (IsToken text) :=
  List.decidableBAll _ text.toList

namespace IsToken

theorem not_mem {text : String} (h : IsToken text) {c : Char}
    (other : ¬(c.isAlphanum = true ∨ c = '.' ∨ c = '-')) : c ∉ text.toList :=
  fun hm => other (h c hm)

theorem newline_not_mem {text : String} (h : IsToken text) : '\n' ∉ text.toList :=
  h.not_mem (by decide)

theorem append {text more : String} (h : IsToken text) (h' : IsToken more) :
    IsToken (text ++ more) := by
  intro c hc
  rw [String.toList_append] at hc
  exact (List.mem_append.mp hc).elim (h c) (h' c)

theorem toString (n : Nat) : IsToken (toString n) := by
  intro c hc
  rw [Nat.toString_eq_ofList_toDigits, String.toList_ofList] at hc
  have digit := Nat.isDigit_of_mem_toDigits (by decide) (by decide) hc
  exact .inl (by rw [Char.isAlphanum, digit, Bool.or_true])

theorem patternVariable (index : Nat) : IsToken (patternVariable index) :=
  append (by decide) (toString index)

theorem loopVariable (level : Nat) : IsToken (loopVariable level) :=
  append (by decide) (toString level)

theorem plainText (x : Binary64) : IsToken x.plainText := by
  have sign : IsToken x.signText := by
    unfold Binary64.signText
    split <;> decide
  refine sign.append ?_
  split
  next => decide
  next =>
    intro c hc
    rcases Decimal.mem_positional hc with digit | point
    · exact .inl (by rw [Char.isAlphanum, digit, Bool.or_true])
    · exact .inr (.inl point)

theorem countLiteral (count : Option Nat) : IsToken (countLiteral count) := by
  unfold CheckedTypes.countLiteral
  cases Binary64.ofInt? (count.getD 0) with
  | none => decide
  | some x => exact plainText x

theorem flagLiteral (flag : Bool) : IsToken (flagLiteral flag) := by
  cases flag <;> decide

theorem bound (bound : Option Bound) : IsToken (Bound.literal bound) := by
  cases bound with
  | none => decide
  | some bound => exact plainText bound.value

theorem numericArguments (constraints : NumericConstraints) :
    ∀ argument ∈ constraints.arguments, IsToken argument := by
  have divisor : IsToken ((constraints.multipleOf.map Binary64.plainText).getD "1") := by
    cases constraints.multipleOf with
    | none => decide
    | some x => exact plainText x
  simp only [NumericConstraints.arguments, List.forall_mem_cons]
  simp [bound, flagLiteral, divisor]

theorem stringArguments (constraints : StringConstraints) :
    ∀ argument ∈ constraints.arguments, IsToken argument := by
  simp only [StringConstraints.arguments, List.forall_mem_cons]
  simp [countLiteral, flagLiteral]

theorem arrayArguments (constraints : ArrayConstraints) :
    ∀ argument ∈ constraints.arguments, IsToken argument := by
  simp only [ArrayConstraints.arguments, List.forall_mem_cons]
  simp [countLiteral, flagLiteral]

end IsToken

theorem newline_not_mem_patternVariable (index : Nat) :
    '\n' ∉ (patternVariable index).toList :=
  (IsToken.patternVariable index).newline_not_mem

/-- The expression for a place is not spread over lines. -/
def Cursor.PlainIn (cursor : Cursor) (target : Target) : Prop :=
  '\n' ∉ (target.expression cursor).toList

/-- No name on the way to a place is spread over lines. -/
structure Cursor.OnOneLine (cursor : Cursor) : Prop where
  root : '\n' ∉ cursor.root.toList
  names : ∀ name, .key name ∈ cursor.raw → '\n' ∉ name.toList

namespace Cursor.OnOneLine

variable {cursor : Cursor}

theorem field (h : cursor.OnOneLine) {name : String} (hn : '\n' ∉ name.toList) :
    (cursor.field name).OnOneLine := by
  refine ⟨h.root, fun other ho => ?_⟩
  rw [Cursor.raw_field, List.mem_append, List.mem_singleton] at ho
  rcases ho with ho | ho
  · exact h.names other ho
  · cases ho
    exact hn

theorem element (h : cursor.OnOneLine) : cursor.element.OnOneLine := by
  refine ⟨h.root, fun other ho => ?_⟩
  rw [Cursor.raw_element, List.mem_append, List.mem_singleton] at ho
  rcases ho with ho | ho
  · exact h.names other ho
  · cases ho

theorem loopVariable (level : Nat) : '\n' ∉ (CheckedTypes.loopVariable level).toList :=
  (IsToken.loopVariable level).newline_not_mem

theorem plainIn (h : cursor.OnOneLine) (target : Target) : cursor.PlainIn target := by
  have accessors : ∀ accessor ∈ cursor.accessors target.fieldAccessor,
      '\n' ∉ accessor.toList := by
    intro accessor ha
    obtain ⟨segment, hs, rfl⟩ := List.mem_map.mp ha
    cases segment with
    | key name =>
      have name := newline_not_mem_renderName (h.names name hs)
      cases target <;> simp [Target.fieldAccessor, newline_not_mem_quote, name]
    | index level => simp [loopVariable]
  unfold PlainIn Target.expression Cursor.expression
  simpa [h.root] using accessors

theorem rawArguments (cursor : Cursor) :
    ∀ argument ∈ cursor.rawArguments, '\n' ∉ argument.toList := by
  intro argument ha
  obtain ⟨segment, hs, rfl⟩ := List.mem_map.mp ha
  cases segment with
  | key name => exact newline_not_mem_quote name
  | index level => exact loopVariable level

end Cursor.OnOneLine

theorem Cursor.PlainIn.valueArgument {cursor : Cursor} {target : Target}
    (h : cursor.PlainIn target) (scalar : Scalar) (optional : Bool) :
    '\n' ∉ (target.valueArgument cursor scalar optional).toList := by
  unfold PlainIn at h
  cases target with
  | go =>
    unfold Target.valueArgument
    dsimp only
    split
    next => exact h
    next =>
      split
      next => cases scalar <;> simp [Target.scalarName, h]
      next => simp [h]
  | typescript => exact h

theorem newline_not_mem_call (target : Target) (helper : Helper) {arguments : List String}
    (h : ∀ argument ∈ arguments, '\n' ∉ argument.toList) :
    '\n' ∉ (helper.call target arguments).toList := by
  have list := newline_not_mem_commaSeparated h
  have name : '\n' ∉ (helper.name target).toList := by
    cases target <;> cases helper <;> decide
  simp [Helper.call, name, list]

theorem newline_not_mem_predicate {predicate : Predicate} {target : Target}
    (h : predicate.cursor.PlainIn target) : '\n' ∉ (predicate.text target).toList := by
  have last {arguments : List String} (plain : ∀ argument ∈ arguments, '\n' ∉ argument.toList)
      {text : String} (ht : '\n' ∉ text.toList) :
      ∀ argument ∈ arguments ++ [text], '\n' ∉ argument.toList :=
    List.forall_mem_append.mpr ⟨plain, List.forall_mem_singleton.mpr ht⟩
  have tokens {arguments : List String} (h : ∀ argument ∈ arguments, IsToken argument) :
      ∀ argument ∈ arguments, '\n' ∉ argument.toList :=
    fun argument ha => (h argument ha).newline_not_mem
  cases predicate with
  | present cursor =>
    have expression : '\n' ∉ (target.expression cursor).toList := h
    cases target <;> simp [Predicate.text, Target.presentText, expression]
  | member object name =>
    cases target with
    | go =>
      have arguments := newline_not_mem_commaSeparated (List.forall_mem_cons.mpr
        ⟨(by decide : '\n' ∉ "raw".toList),
          last (Cursor.OnOneLine.rawArguments object) (newline_not_mem_quote name)⟩)
      simp [Predicate.text, Target.memberText, arguments]
    | typescript =>
      have expression : '\n' ∉ (Target.typescript.expression object).toList := h
      simp [Predicate.text, Target.memberText, newline_not_mem_quote, expression]
  | integer constraints cursor optional =>
    exact newline_not_mem_call target .integer
      (last (tokens (IsToken.numericArguments constraints)) (h.valueArgument _ _))
  | number constraints cursor optional =>
    exact newline_not_mem_call target .number
      (last (tokens (IsToken.numericArguments constraints)) (h.valueArgument _ _))
  | length constraints cursor optional =>
    exact newline_not_mem_call target .string
      (last (tokens (IsToken.stringArguments constraints)) (h.valueArgument _ _))
  | pattern index cursor optional =>
    have name := tokens (List.forall_mem_singleton.mpr (IsToken.patternVariable index))
    exact newline_not_mem_call target .pattern (last name (h.valueArgument _ _))
  | array constraints cursor =>
    exact newline_not_mem_call target .array
      (last (tokens (IsToken.arrayArguments constraints)) h)

theorem newline_not_mem_negate {expression : String} (h : '\n' ∉ expression.toList) :
    '\n' ∉ (negate expression).toList := by
  unfold negate
  split <;> simp [h]

theorem newline_not_mem_failureText (target : Target) (reason : String) (cursor : Cursor) :
    '\n' ∉ (target.failureText reason cursor).toList := by
  have path := newline_not_mem_commaSeparated (Cursor.OnOneLine.rawArguments cursor)
  have whole := newline_not_mem_commaSeparated (List.forall_mem_cons.mpr
    ⟨newline_not_mem_quote reason, Cursor.OnOneLine.rawArguments cursor⟩)
  cases target with
  | go =>
    unfold Target.failureText
    simp only [String.toList_append, List.mem_append, whole, or_false]
    decide
  | typescript =>
    unfold Target.failureText
    simp only [String.toList_append, List.mem_append, newline_not_mem_quote, path, or_false]
    decide

theorem newline_not_mem_ifHeader (target : Target) {condition : String}
    (h : '\n' ∉ condition.toList) : '\n' ∉ (target.ifHeader condition).toList := by
  cases target <;> simp [Target.ifHeader, h]

namespace Row

/-- The places that a row looks at. -/
def cursors : Row → List Cursor
  | test predicate => [predicate.cursor]
  | failure _ cursor => [cursor]
  | dispatch _ cursor => [cursor]
  | guard cursor => [cursor]
  | loop cursor => [cursor]
  | blockEnd => []

theorem newline_not_mem_text (row : Row) {target : Target}
    (h : ∀ cursor ∈ row.cursors, cursor.PlainIn target) : '\n' ∉ (row.text target).toList := by
  unfold Cursor.PlainIn at h
  cases row with
  | test predicate =>
    have condition := newline_not_mem_predicate (h _ List.mem_cons_self)
    exact newline_not_mem_ifHeader target (newline_not_mem_negate condition)
  | failure reason cursor => exact newline_not_mem_failureText target reason.text cursor
  | dispatch ident cursor =>
    have expression := h _ List.mem_cons_self
    unfold Row.text Target.dispatchText
    simp [newline_not_mem_quote, expression]
  | guard cursor =>
    have expression := h _ List.mem_cons_self
    refine newline_not_mem_ifHeader target ?_
    cases target <;> simp [Target.presentText, expression]
  | loop cursor =>
    have expression := h _ List.mem_cons_self
    have counter := Cursor.OnOneLine.loopVariable cursor.level
    unfold Row.text Target.loopHeader Cursor.loopVar
    cases target <;> simp [expression, counter]
  | blockEnd =>
    change '\n' ∉ "\x7d".toList
    decide

/-- What a row begins with. -/
def first (target : Target) : Row → Char
  | test _ => 'i'
  | failure _ _ => match target with | .go => 'r' | .typescript => 't'
  | dispatch _ _ => '$'
  | guard _ => 'i'
  | loop _ => 'f'
  | blockEnd => '\x7d'

theorem head?_text (row : Row) (target : Target) :
    (row.text target).toList.head? = some (row.first target) := by
  unfold Row.text Target.ifHeader Target.failureText Target.dispatchText Target.loopHeader
  cases row <;> cases target <;> simp only [String.toList_append] <;> rfl

/-- What a row ends with. -/
def last (target : Target) : Row → Char
  | test _ => '\x7b'
  | failure _ _ => match target with | .go => ')' | .typescript => ';'
  | dispatch _ _ => ';'
  | guard _ => '\x7b'
  | loop _ => '\x7b'
  | blockEnd => '\x7d'

theorem getLast?_text (row : Row) (target : Target) :
    (row.text target).toList.getLast? = some (row.last target) := by
  unfold Row.text Target.ifHeader Target.failureText Target.dispatchText Target.loopHeader
  cases row <;> cases target <;> simp only [String.toList_append, List.getLast?_append] <;> rfl

theorem text_ne_nil (row : Row) (target : Target) : (row.text target).toList ≠ [] := by
  intro he
  have first := row.head?_text target
  simp [he] at first

theorem line_eq (target : Target) (row : Nat × Row) :
    line target row =
      (List.replicate row.1 target.tab.toList).flatten ++ (row.2.text target).toList := by
  rw [line, CodeWriter.indented, if_neg (text_ne_nil row.2 target)]

theorem getLast?_line (target : Target) (row : Nat × Row) :
    (line target row).getLast? = some (row.2.last target) := by
  rw [line_eq, List.getLast?_append, getLast?_text]
  rfl

/-- The indentation of a line stands in front of what it says. -/
theorem dropWhile_line {target : Target} {blank : Char → Bool}
    (tab : ∀ c ∈ target.tab.toList, blank c = true) (row : Nat × Row)
    (first : blank (row.2.first target) = false) :
    (line target row).dropWhile blank = (row.2.text target).toList := by
  have indentation : ∀ c ∈ (List.replicate row.1 target.tab.toList).flatten,
      blank c = true := by
    intro c hc
    obtain ⟨part, hp, hc⟩ := List.mem_flatten.mp hc
    exact tab c (List.eq_of_mem_replicate hp ▸ hc)
  rw [line_eq, List.dropWhile_append_of_pos indentation]
  obtain ⟨rest, hr⟩ := List.head?_eq_some_iff.mp (row.2.head?_text target)
  rw [hr, List.dropWhile_cons_of_neg (by simp [first])]

theorem trimmedLine_line (target : Target) (row : Nat × Row) :
    trimmedLine (line target row) = line target row := by
  obtain ⟨front, hf⟩ := List.getLast?_eq_some_iff.mp (getLast?_line target row)
  rw [hf, trimmedLine_append_singleton]
  cases row.2 <;> cases target <;> simp [Row.last]

end Row

mutual
theorem Statement.rows_add (more : Nat) : ∀ (depth : Nat) (statement : Statement),
    statement.rows (depth + more) =
      (statement.rows depth).map fun row => (row.1 + more, row.2)
  | _, .failUnless _ _ _ => by simp [rows, Nat.add_right_comm]
  | _, .dispatch _ _ => rfl
  | depth, .guarded _ body => by
    rw [rows, rows, Nat.add_right_comm, rowsAll_add more (depth + 1) body]
    simp
  | depth, .loop _ body => by
    rw [rows, rows, Nat.add_right_comm, rowsAll_add more (depth + 1) body]
    simp
  | depth, .splice body => rowsAll_add more depth body
theorem Statement.rowsAll_add (more : Nat) : ∀ (depth : Nat) (statements : List Statement),
    rowsAll (depth + more) statements =
      (rowsAll depth statements).map fun row => (row.1 + more, row.2)
  | _, [] => rfl
  | depth, statement :: rest => by
    rw [rowsAll, rowsAll, List.map_append, rows_add more depth statement,
      rowsAll_add more depth rest]
end

theorem Row.mem_cursors_of_mem_block {first : Row} {place cursor : Cursor} {depth : Nat}
    {body : List (Nat × Row)} {inside : List Cursor} (opens : first.cursors = [place])
    (h : ∀ row ∈ body, cursor ∈ row.2.cursors → cursor ∈ inside) {row : Nat × Row}
    (hr : row ∈ (depth, first) :: (body ++ [(depth, .blockEnd)])) (hc : cursor ∈ row.2.cursors) :
    cursor ∈ place :: inside := by
  rcases List.mem_cons.mp hr with rfl | hr
  · rw [opens] at hc
    exact List.mem_singleton.mp hc ▸ List.mem_cons_self
  · rcases List.mem_append.mp hr with hr | hr
    · exact List.mem_cons_of_mem _ (h row hr hc)
    · cases List.mem_singleton.mp hr
      cases hc

mutual
/-- The rows of a statement look at no other places than the statement. -/
theorem Statement.mem_cursors_of_mem_rows : ∀ {statement : Statement} {depth : Nat}
    {row : Nat × Row} {cursor : Cursor}, row ∈ statement.rows depth → cursor ∈ row.2.cursors →
      cursor ∈ statement.cursors
  | .failUnless _ _ _, _, _, _, hr, hc => by
    simp only [rows, List.mem_cons, List.not_mem_nil, or_false] at hr
    rcases hr with rfl | rfl | rfl <;> simp_all [Row.cursors, cursors]
  | .dispatch _ _, _, _, _, hr, hc => by
    cases List.mem_singleton.mp hr
    exact hc
  | .guarded _ _, _, _, _, hr, hc =>
    Row.mem_cursors_of_mem_block rfl (fun _ => mem_cursorsAll_of_mem_rowsAll) hr hc
  | .loop _ _, _, _, _, hr, hc =>
    Row.mem_cursors_of_mem_block rfl (fun _ => mem_cursorsAll_of_mem_rowsAll) hr hc
  | .splice _, _, _, _, hr, hc => mem_cursorsAll_of_mem_rowsAll hr hc
theorem Statement.mem_cursorsAll_of_mem_rowsAll : ∀ {statements : List Statement} {depth : Nat}
    {row : Nat × Row} {cursor : Cursor}, row ∈ rowsAll depth statements →
      cursor ∈ row.2.cursors → cursor ∈ cursorsAll statements
  | [], _, _, _, hr, _ => by cases hr
  | _ :: _, _, _, _, hr, hc => by
    rcases List.mem_append.mp hr with hr | hr
    · exact List.mem_append_left _ (mem_cursors_of_mem_rows hr hc)
    · exact List.mem_append_right _ (mem_cursorsAll_of_mem_rowsAll hr hc)
end

namespace CodeWriter

variable {w : CodeWriter} {lines : List (List Char)} {depth : Nat}

theorem indented_indented (tab : String) (depth more : Nat) (line : List Char) :
    indented tab more (indented tab depth line) = indented tab (depth + more) line := by
  by_cases he : line = []
  · simp [indented, he]
  · have inner : (List.replicate depth tab.toList).flatten ++ line ≠ [] := by simp [he]
    rw [indented, indented, if_neg he, if_neg inner, indented, if_neg he, Nat.add_comm depth,
      List.replicate_add, List.flatten_append, List.append_assoc]

theorem Shows.row {tab : String} (h : w.Shows tab depth lines) {text : String}
    (plain : '\n' ∉ text.toList) :
    (w.line text).Shows tab depth (lines ++ [indented tab depth text.toList]) := by
  have next := h.line text
  rwa [splitOn_of_not_mem (newline_not_mem_indented h.tab_plain plain)] at next

theorem Shows.opened {tab : String} (h : w.Shows tab depth lines) {header : String}
    (plain : '\n' ∉ header.toList) : (w.openBlock header).Shows tab (depth + 1)
      (lines ++ [indented tab depth header.toList]) :=
  { h.row plain with depth_eq := congrArg (· + 1) (h.row plain).depth_eq }

theorem Shows.closed {tab : String} (h : w.Shows tab (depth + 1) lines) :
    (w.closeBlock Target.blockEnd).Shows tab depth
      (lines ++ [indented tab depth Target.blockEnd.toList]) := by
  have out : w.dedent.Shows tab depth lines :=
    { h with depth_eq := by rw [dedent, h.depth_eq, Nat.add_sub_cancel] }
  exact out.row (by decide)

theorem shows_empty (target : Target) : Shows { tab := target.tab } target.tab 0 [] where
  tab_eq := rfl
  tab_plain := by cases target <;> decide
  depth_eq := rfl
  atLineStart := rfl
  text_eq := rfl
  plain := by simp

/-- A text of its own is put in place line by line. -/
theorem Shows.embedRows {target : Target} (h : w.Shows target.tab depth lines)
    {inner : CodeWriter} {body : List Statement}
    (hi : inner.Shows target.tab 0 ((Statement.rowsAll 0 body).map (Row.line target))) :
    (w.embed inner.text).Shows target.tab depth
      (lines ++ (Statement.rowsAll depth body).map (Row.line target)) := by
  have rows : (textLines inner.text.toList).map (indented target.tab depth) =
      (Statement.rowsAll depth body).map (Row.line target) := by
    have shift := Statement.rowsAll_add depth 0 body
    rw [Nat.zero_add] at shift
    rw [hi.text_eq, textLines_joinLines hi.plain, shift, List.map_map, List.map_map, List.map_map]
    refine List.map_congr_left fun row _ => ?_
    simp only [Function.comp_apply, Row.trimmedLine_line]
    exact indented_indented _ _ _ _
  exact rows ▸ h.embed inner.text

theorem Shows.blockRows {target : Target} (h : w.Shows target.tab depth lines) {row : Row}
    (plain : '\n' ∉ (row.text target).toList) {inner : CodeWriter} {body : List Statement}
    (hi : inner.Shows target.tab 0 ((Statement.rowsAll 0 body).map (Row.line target))) :
    (w.block (row.text target) inner.text).Shows target.tab depth
      (lines ++ ((depth, row) :: (Statement.rowsAll (depth + 1) body ++
        [(depth, .blockEnd)])).map (Row.line target)) := by
  have done := ((h.opened plain).embedRows hi).closed
  rw [List.append_assoc, List.append_assoc] at done
  rw [List.map_cons, List.map_append]
  exact done

mutual
/-- A statement is written as its rows. -/
theorem Shows.statement {target : Target} : ∀ {statement : Statement} {w : CodeWriter}
    {depth : Nat} {lines : List (List Char)}, w.Shows target.tab depth lines →
      (∀ cursor ∈ statement.cursors, cursor.PlainIn target) →
      (w.statement target statement).Shows target.tab depth
        (lines ++ (statement.rows depth).map (Row.line target))
  | .failUnless predicate reason cursor, _, _, _, h, plain => by
    have first : ∀ place ∈ [predicate.cursor], place.PlainIn target :=
      List.forall_mem_singleton.mpr (List.forall_mem_cons.mp plain).1
    have test := h.opened (Row.newline_not_mem_text (.test predicate) first)
    have failure := test.row (newline_not_mem_failureText target reason.text cursor)
    have done := failure.closed
    rw [List.append_assoc, List.append_assoc] at done
    exact done
  | .dispatch ident cursor, _, _, _, h, plain =>
    h.row (Row.newline_not_mem_text (.dispatch ident cursor) plain)
  | .guarded cursor body, _, _, _, h, plain => by
    obtain ⟨first, inside⟩ := List.forall_mem_cons.mp plain
    have guard := Row.newline_not_mem_text (.guard cursor) (List.forall_mem_singleton.mpr first)
    exact h.blockRows guard (Shows.statements (shows_empty target) inside)
  | .loop cursor body, _, _, _, h, plain => by
    obtain ⟨first, inside⟩ := List.forall_mem_cons.mp plain
    have loop := Row.newline_not_mem_text (.loop cursor) (List.forall_mem_singleton.mpr first)
    exact h.blockRows loop (Shows.statements (shows_empty target) inside)
  | .splice _, _, _, _, h, plain => h.embedRows (Shows.statements (shows_empty _) plain)
theorem Shows.statements {target : Target} : ∀ {statements : List Statement} {w : CodeWriter}
    {depth : Nat} {lines : List (List Char)}, w.Shows target.tab depth lines →
      (∀ cursor ∈ Statement.cursorsAll statements, cursor.PlainIn target) →
      (w.statements target statements).Shows target.tab depth
        (lines ++ (Statement.rowsAll depth statements).map (Row.line target))
  | [], _, _, _, h, _ => by
    rw [CodeWriter.statements, Statement.rowsAll, List.map_nil, List.append_nil]
    exact h
  | _ :: _, _, _, _, h, plain => by
    obtain ⟨first, others⟩ := List.forall_mem_append.mp plain
    rw [CodeWriter.statements, Statement.rowsAll, List.map_append, ← List.append_assoc]
    exact Shows.statements (Shows.statement h first) others
end

end CodeWriter

/-- The text of a validator is that of its rows, one line for each. -/
theorem validatorText_rows {target : Target} {statements : List Statement}
    (plain : ∀ cursor ∈ Statement.cursorsAll statements, cursor.PlainIn target) :
    (validatorText target statements).toList =
        joinLines ((Statement.rowsAll 0 statements).map (Row.line target)) ∧
      textLines (validatorText target statements).toList =
        (Statement.rowsAll 0 statements).map (Row.line target) := by
  have shows := CodeWriter.Shows.statements (CodeWriter.shows_empty target) plain
  rw [List.nil_append] at shows
  refine ⟨shows.text_eq, ?_⟩
  rw [validatorText, shows.text_eq, textLines_joinLines shows.plain, List.map_map]
  exact List.map_congr_left fun row _ => Row.trimmedLine_line target row

/-- Where no name is spread over lines, that is so in every language. -/
theorem validatorText_toList (target : Target) {statements : List Statement}
    (plain : ∀ cursor ∈ Statement.cursorsAll statements, cursor.OnOneLine) :
    (validatorText target statements).toList =
        joinLines ((Statement.rowsAll 0 statements).map (Row.line target)) ∧
      textLines (validatorText target statements).toList =
        (Statement.rowsAll 0 statements).map (Row.line target) :=
  validatorText_rows fun cursor hm => (plain cursor hm).plainIn target

end CheckedTypes
