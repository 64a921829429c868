import CheckedTypes.Proofs.QuotedText
import CheckedTypes.Proofs.ValidatorRows
import Mathlib

namespace CheckedTypes

/-- The blanks of the table. -/
def blankRanges : List CodeRange :=
  [⟨0x9, 0xd⟩, ⟨0x20, 0x20⟩, ⟨0x85, 0x85⟩, ⟨0xa0, 0xa0⟩, ⟨0x1680, 0x1680⟩, ⟨0x2000, 0x200a⟩,
    ⟨0x2028, 0x2029⟩, ⟨0x202f, 0x202f⟩, ⟨0x205f, 0x205f⟩, ⟨0x3000, 0x3000⟩]

theorem whiteSpace_ranges : whiteSpace.ranges = blankRanges := by
  cbv

theorem isWhiteSpace_eq (c : Char) : isWhiteSpace c = CharSet.anyContains c.toNat blankRanges :=
  congrArg (CharSet.anyContains c.toNat) whiteSpace_ranges

/-- A character that takes the scanner into a literal or past a bracket. -/
def IsScanMark (c : Char) : Prop :=
  c ∈ ['"', '(', '[', ')', ']']

instance : DecidablePred IsScanMark :=
  fun _ => inferInstanceAs (Decidable (_ ∈ _))

/-- A text that says nothing to the scanner, wherever it stands. -/
def IsInert (text : String) : Prop :=
  ∀ c ∈ text.toList, ¬IsScanMark c ∧ isWhiteSpace c = false

instance (text : String) : Decidable (IsInert text) :=
  have (c : Char) : Decidable (¬IsScanMark c ∧ isWhiteSpace c = false) :=
    decidable_of_iff (¬IsScanMark c ∧ CharSet.anyContains c.toNat blankRanges = false)
      (by rw [isWhiteSpace_eq])
  List.decidableBAll _ text.toList

theorem ScanState.step_code {depth : Nat} {c : Char} (h : ¬IsScanMark c) :
    (code depth).step c = code depth := by
  simp only [IsScanMark, List.mem_cons, List.not_mem_nil, or_false, not_or] at h
  obtain ⟨quoted, round, square, roundEnd, squareEnd⟩ := h
  simp [step, quoted, round, square, roundEnd, squareEnd]

theorem ScanState.step_literal {depth : Nat} {c : Char} (escape : c ≠ '\\') (quoted : c ≠ '"') :
    (literal depth).step c = literal depth := by
  simp [step, escape, quoted]

theorem hasOuterBlank_cons (state : ScanState) (c : Char) (rest : List Char) :
    hasOuterBlank state (c :: rest) =
      (hasOuterBlank state [c] || hasOuterBlank (state.step c) rest) := by
  simp [hasOuterBlank]

theorem hasOuterBlank_append (state : ScanState) (text more : List Char) :
    hasOuterBlank state (text ++ more) =
      (hasOuterBlank state text || hasOuterBlank (text.foldl ScanState.step state) more) := by
  induction text generalizing state with
  | nil => rfl
  | cons c rest ih =>
    rw [List.cons_append, hasOuterBlank_cons, ih, hasOuterBlank_cons state c rest, Bool.or_assoc]
    rfl

theorem hasOuterBlank_singleton (state : ScanState) {c : Char} (h : isWhiteSpace c = false) :
    hasOuterBlank state [c] = false := by
  unfold hasOuterBlank
  split
  next => rw [h]; rfl
  next => rfl

/-- The scanner comes out of a text as it has gone in, and has seen no blank outside of literals and
brackets. -/
structure Passes (state : ScanState) (text : List Char) : Prop where
  read_eq : text.foldl ScanState.step state = state
  no_blank : hasOuterBlank state text = false

namespace Passes

variable {state inner : ScanState} {depth : Nat} {text more : List Char}

theorem nil : Passes state [] :=
  ⟨rfl, rfl⟩

theorem cons {c : Char} (stays : state.step c = state) (covered : hasOuterBlank state [c] = false)
    (h : Passes state text) : Passes state (c :: text) where
  read_eq := by rw [List.foldl_cons, stays, h.read_eq]
  no_blank := by rw [hasOuterBlank_cons, covered, stays, h.no_blank]; rfl

theorem append (h : Passes state text) (h' : Passes state more) : Passes state (text ++ more) where
  read_eq := by rw [List.foldl_append, h.read_eq, h'.read_eq]
  no_blank := by rw [hasOuterBlank_append, h.read_eq, h.no_blank, h'.no_blank]; rfl

theorem flatMap {α : Type} {list : List α} {text : α → List Char}
    (h : ∀ a ∈ list, Passes state (text a)) : Passes state (list.flatMap text) := by
  induction list with
  | nil => exact nil
  | cons a list ih =>
    obtain ⟨first, others⟩ := List.forall_mem_cons.mp h
    exact first.append (ih others)

/-- A text passes together with what stands around it, if that takes the scanner to where the text
passes and back. -/
theorem enclosed {first last : Char} (h : Passes inner text) (opens : state.step first = inner)
    (closes : inner.step last = state)
    (solid : isWhiteSpace first = false ∧ isWhiteSpace last = false) :
    Passes state (first :: (text ++ [last])) where
  read_eq := by
    rw [List.foldl_cons, opens, List.foldl_append, h.read_eq]
    exact closes
  no_blank := by
    have apart : first :: (text ++ [last]) = [first] ++ (text ++ [last]) := rfl
    have read : [first].foldl ScanState.step state = inner := opens
    have start := hasOuterBlank_singleton state solid.1
    have stop := hasOuterBlank_singleton inner solid.2
    rw [apart, hasOuterBlank_append, read, hasOuterBlank_append, h.read_eq, start, h.no_blank, stop]
    rfl

theorem parenthesized (h : Passes (.code (depth + 1)) text) :
    Passes (.code depth) ('(' :: (text ++ [')'])) := by
  refine h.enclosed (by simp [ScanState.step]) (by simp [ScanState.step]) ?_
  simp only [isWhiteSpace_eq]
  decide

theorem bracketed (h : Passes (.code (depth + 1)) text) :
    Passes (.code depth) ('[' :: (text ++ [']'])) := by
  refine h.enclosed (by simp [ScanState.step]) (by simp [ScanState.step]) ?_
  simp only [isWhiteSpace_eq]
  decide

/-- Blanks only matter outside of brackets. -/
theorem of_unmarked (unmarked : ∀ c ∈ text, ¬IsScanMark c)
    (solid : depth = 0 → ∀ c ∈ text, isWhiteSpace c = false) : Passes (.code depth) text := by
  induction text with
  | nil => exact nil
  | cons c rest ih =>
    obtain ⟨first, others⟩ := List.forall_mem_cons.mp unmarked
    have stays : (ScanState.code depth).step c = .code depth := ScanState.step_code first
    have covered : hasOuterBlank (.code depth) [c] = false := by
      cases depth with
      | zero => exact hasOuterBlank_singleton _ (solid rfl c List.mem_cons_self)
      | succ depth => rfl
    have tail := ih others fun outer d hd => solid outer d (List.mem_cons_of_mem _ hd)
    exact tail.cons stays covered

theorem of_inert {text : String} (h : IsInert text) : Passes (.code depth) text.toList :=
  of_unmarked (fun c hc => (h c hc).1) fun _ c hc => (h c hc).2

theorem of_isToken {text : String} (h : IsToken text) :
    Passes (.code (depth + 1)) text.toList := by
  refine of_unmarked (fun c hc mark => ?_) (fun outer => absurd outer (Nat.succ_ne_zero depth))
  simp only [IsScanMark, List.mem_cons, List.not_mem_nil, or_false] at mark
  rcases mark with rfl | rfl | rfl | rfl | rfl <;> exact absurd (h _ hc) (by decide)

theorem of_unquoted (h : ∀ c ∈ text, c ≠ '\\' ∧ c ≠ '"') : Passes (.literal depth) text := by
  induction text with
  | nil => exact nil
  | cons c rest ih =>
    obtain ⟨⟨escape, quoted⟩, others⟩ := List.forall_mem_cons.mp h
    exact (ih others).cons (ScanState.step_literal escape quoted) rfl

/-- An escape is over before the next character of a literal. -/
theorem quotedChar (depth : Nat) (c : Char) : Passes (.literal depth) (quotedChar c) := by
  by_cases hc : IsEscaped c
  · obtain ⟨letter, rest, escape, others⟩ := exists_letter_of_isEscaped hc
    -- The letter may be a quote or a backslash, but it is not read as one.
    have pair : Passes (.literal depth) ['\\', letter] := ⟨by simp [ScanState.step], rfl⟩
    rw [escape]
    exact pair.append (of_unquoted others)
  · rw [quotedChar_of_not_isEscaped hc]
    refine of_unquoted (List.forall_mem_singleton.mpr ⟨?_, ?_⟩)
    · exact fun same => hc (.inr (.inr same))
    · exact fun same => hc (.inr (.inl same))

/-- A literal leaves the scanner where it has found it, whatever characters it is of. -/
theorem quote (text : String) : Passes (.code depth) (quote text).toList := by
  have body : Passes (.literal depth) (text.toList.flatMap CheckedTypes.quotedChar) :=
    flatMap fun c _ => quotedChar depth c
  rw [CheckedTypes.quote, String.toList_ofList]
  refine body.enclosed (by simp [ScanState.step]) (by simp [ScanState.step]) ?_
  simp only [isWhiteSpace_eq]
  decide

theorem commaSeparated {parts : List String}
    (h : ∀ part ∈ parts, Passes (.code (depth + 1)) part.toList) :
    Passes (.code (depth + 1)) (Target.commaSeparated parts).toList := by
  have separator : Passes (.code (depth + 1)) ", ".toList := ⟨rfl, rfl⟩
  unfold Target.commaSeparated
  induction parts with
  | nil => exact nil
  | cons part parts ih =>
    obtain ⟨first, others⟩ := List.forall_mem_cons.mp h
    cases parts with
    | nil => simpa using first
    | cons next parts =>
      rw [String.intercalate_cons_cons, String.toList_append, String.toList_append]
      exact (first.append separator).append (ih others)

theorem call {name inside : String} (word : IsInert name)
    (h : Passes (.code (depth + 1)) inside.toList) :
    Passes (.code depth) (name ++ "(" ++ inside ++ ")").toList := by
  have whole := (of_inert word).append h.parenthesized
  simpa using whole

end Passes

theorem negate_of_passes {expression : String} (h : Passes (.code 0) expression.toList) :
    negate expression = "!" ++ expression := by
  rw [negate, h.no_blank]
  rfl

namespace Cursor

/-- The variable of a place says nothing to the scanner, nor does what Go calls the members on the
way. -/
structure InertInGo (cursor : Cursor) : Prop where
  root : IsInert cursor.root
  names : ∀ name, .key name ∈ cursor.raw → IsInert (renderName name)

theorem passes_expression {cursor : Cursor} {target : Target} {depth : Nat}
    (root : IsInert cursor.root)
    (names : ∀ name, .key name ∈ cursor.raw →
      Passes (.code depth) (target.fieldAccessor name).toList) :
    Passes (.code depth) (target.expression cursor).toList := by
  unfold Target.expression expression
  rw [String.toList_append, String.toList_join]
  refine (Passes.of_inert root).append (Passes.flatMap fun accessor ha => ?_)
  obtain ⟨segment, hs, rfl⟩ := List.mem_map.mp ha
  cases segment with
  | key name => exact names name hs
  | index level =>
    have counter : Passes (.code depth) ('[' :: ((loopVariable level).toList ++ [']'])) :=
      (Passes.of_isToken (IsToken.loopVariable level)).bracketed
    simpa using counter

theorem passes_typescript {cursor : Cursor} (root : IsInert cursor.root)
    (depth : Nat) : Passes (.code depth) (Target.typescript.expression cursor).toList := by
  refine passes_expression root fun name _ => ?_
  have literal : Passes (.code depth) ('[' :: ((quote name).toList ++ [']'])) :=
    (Passes.quote name).bracketed
  simpa [Target.fieldAccessor] using literal

theorem InertInGo.passes {cursor : Cursor} (h : cursor.InertInGo) (depth : Nat) :
    Passes (.code depth) (Target.go.expression cursor).toList := by
  refine passes_expression h.root fun name hn => ?_
  rw [Target.fieldAccessor, String.toList_append]
  exact (Passes.of_inert (by decide)).append (Passes.of_inert (h.names name hn))

theorem passes_rawArguments (cursor : Cursor) (depth : Nat) :
    ∀ argument ∈ cursor.rawArguments, Passes (.code (depth + 1)) argument.toList := by
  intro argument ha
  obtain ⟨segment, hs, rfl⟩ := List.mem_map.mp ha
  cases segment with
  | key name => exact Passes.quote name
  | index level => exact Passes.of_isToken (IsToken.loopVariable level)

end Cursor

theorem passes_valueArgument {target : Target} {cursor : Cursor} {depth : Nat}
    (h : ∀ depth, Passes (.code depth) (target.expression cursor).toList) (scalar : Scalar)
    (optional : Bool) :
    Passes (.code depth) (target.valueArgument cursor scalar optional).toList := by
  cases target with
  | typescript => exact h depth
  | go =>
    have address (depth : Nat) :
        Passes (.code depth) ("&" ++ Target.go.expression cursor).toList := by
      rw [String.toList_append]
      exact (Passes.of_inert (by decide)).append (h depth)
    unfold Target.valueArgument
    dsimp only
    split
    next => exact h depth
    next =>
      split
      next =>
        have pointer : Passes (.code (depth + 1)) ("*" ++ Target.go.scalarName scalar).toList :=
          Passes.of_inert (by cases scalar <;> decide)
        have conversion := pointer.parenthesized.append (address (depth + 1)).parenthesized
        simpa using conversion
      next => exact address depth

theorem passes_goMember (object : Cursor) (name : String) :
    Passes (.code 0) (Target.go.memberText object name).toList := by
  have arguments : ∀ argument ∈ "raw" :: (object.rawArguments ++ [quote name]),
      Passes (.code 1) argument.toList := by
    refine List.forall_mem_cons.mpr ⟨Passes.of_isToken (by decide), ?_⟩
    exact List.forall_mem_append.mpr
      ⟨object.passes_rawArguments 0, List.forall_mem_singleton.mpr (Passes.quote name)⟩
  have opening : "rawHas(" = "rawHas" ++ "(" := by decide
  rw [Target.memberText, opening]
  exact Passes.call (by decide) (Passes.commaSeparated arguments)

theorem passes_typescriptMember {object : Cursor}
    (h : Passes (.code 1) (Target.typescript.expression object).toList) (name : String) :
    Passes (.code 0) (Target.typescript.memberText object name).toList := by
  have separator : Passes (.code 1) ", ".toList := ⟨rfl, rfl⟩
  have arguments := (h.append separator).append (Passes.quote name)
  rw [← String.toList_append, ← String.toList_append] at arguments
  have word : IsInert "hasMember" := by decide
  have opening : "hasMember(" = "hasMember" ++ "(" := by decide
  have whole := Passes.call word arguments
  rwa [← opening, ← String.append_assoc, ← String.append_assoc] at whole

/-- The scanner comes out of a call as it has gone in. Only Go has a predicate that is none. -/
theorem passes_predicate {target : Target} {predicate : Predicate}
    (h : ∀ depth, Passes (.code depth) (target.expression predicate.cursor).toList)
    (call : target = .go → ∀ cursor, predicate ≠ .present cursor) :
    Passes (.code 0) (predicate.text target).toList := by
  have helper (helper : Helper) {arguments : List String} {value : String}
      (tokens : ∀ argument ∈ arguments, IsToken argument) (hv : Passes (.code 1) value.toList) :
      Passes (.code 0) (helper.call target (arguments ++ [value])).toList := by
    have word : IsInert (helper.name target) := by
      cases target <;> cases helper <;> decide
    refine Passes.call word (Passes.commaSeparated (List.forall_mem_append.mpr
      ⟨fun argument ha => Passes.of_isToken (tokens argument ha), ?_⟩))
    exact List.forall_mem_singleton.mpr hv
  cases predicate with
  | present cursor =>
    cases target with
    | go => exact absurd rfl (call rfl cursor)
    | typescript =>
      have opening : "isPresent(" = "isPresent" ++ "(" := by decide
      rw [Predicate.text, Target.presentText, opening]
      exact Passes.call (by decide) (h 1)
  | member object name =>
    cases target with
    | go => exact passes_goMember object name
    | typescript => exact passes_typescriptMember (h 1) name
  | integer constraints cursor optional =>
    exact helper .integer (IsToken.numericArguments constraints) (passes_valueArgument h _ _)
  | number constraints cursor optional =>
    exact helper .number (IsToken.numericArguments constraints) (passes_valueArgument h _ _)
  | length constraints cursor optional =>
    exact helper .string (IsToken.stringArguments constraints) (passes_valueArgument h _ _)
  | pattern index cursor optional =>
    have name := List.forall_mem_singleton.mpr (IsToken.patternVariable index)
    change Passes (.code 0) (Helper.pattern.call target
      ([patternVariable index] ++ [target.valueArgument cursor .string optional])).toList
    exact helper .pattern name (passes_valueArgument h _ _)
  | array constraints cursor =>
    exact helper .array (IsToken.arrayArguments constraints) (h 1)

/-- The scanner sees the blanks of a comparison once it is through with what is compared. -/
theorem negate_goPresent {expression : String} (h : Passes (.code 0) expression.toList) :
    negate (Target.go.presentText expression) = "!(" ++ expression ++ " != nil" ++ ")" := by
  have blank : isWhiteSpace ' ' = true := by rw [isWhiteSpace_eq]; decide
  have spaced : hasOuterBlank (.code 0) (Target.go.presentText expression).toList = true := by
    rw [Target.presentText, String.toList_append, hasOuterBlank_append, h.read_eq]
    simp [hasOuterBlank, blank]
  rw [negate, spaced, Target.presentText, ← String.append_assoc]
  rfl

/-- A negation is about the whole of a predicate. In front of a call stands the mark alone: any
predicate in TypeScript and the look into the document in Go, whatever the members are called, and
the checks of Go where its names say nothing to the scanner. A comparison is put in parentheses
there. Behind every literal the scanner is where it was, at the same depth. -/
theorem negation_covers_predicate :
    (∀ predicate : Predicate, IsInert predicate.cursor.root →
      negate (predicate.text .typescript) = "!" ++ predicate.text .typescript) ∧
    (∀ (object : Cursor) (name : String),
      negate (Target.go.memberText object name) = "!" ++ Target.go.memberText object name) ∧
    (∀ predicate : Predicate, predicate.cursor.InertInGo →
      (∀ cursor, predicate ≠ .present cursor) →
      negate (predicate.text .go) = "!" ++ predicate.text .go) ∧
    (∀ cursor : Cursor, cursor.InertInGo →
      negate (Target.go.presentText (Target.go.expression cursor)) =
        "!(" ++ Target.go.expression cursor ++ " != nil" ++ ")") ∧
    ∀ (text : String) (depth : Nat),
      (quote text).toList.foldl ScanState.step (.code depth) = .code depth ∧
        hasOuterBlank (.code depth) (quote text).toList = false := by
  refine ⟨fun predicate root => ?_, fun object name => ?_, fun predicate inert call => ?_,
    fun cursor inert => ?_, fun text depth => ?_⟩
  · have expression := Cursor.passes_typescript root
    exact negate_of_passes (passes_predicate expression nofun)
  · exact negate_of_passes (passes_goMember object name)
  · exact negate_of_passes (passes_predicate inert.passes fun _ => call)
  · exact negate_goPresent (inert.passes 0)
  · have literal : Passes (.code depth) (quote text).toList := Passes.quote text
    exact ⟨literal.read_eq, literal.no_blank⟩

theorem negation_covers_predicate_marks :
    negate (Predicate.text .typescript (.present ⟨"main", [.field "a\\\") ["]⟩)) =
        "!isPresent(main[\"a\\\\\\\") [\"])" ∧
      negate (Target.go.memberText ⟨"main", [.element]⟩ "a b(") =
        "!rawHas(raw, i0, \"a b(\")" ∧
      negate (Predicate.text .go (.pattern 0 ⟨"main", [.field "code"]⟩ false)) =
        "!PatternValidation(stringRegex0, &main.Code)" ∧
      negate (Target.go.presentText (Target.go.expression ⟨"main", [.field "code"]⟩)) =
        "!(main.Code != nil)" := by
  have inert : Cursor.InertInGo ⟨"main", [.field "code"]⟩ := by
    refine ⟨by decide, fun name hn => ?_⟩
    cases List.mem_singleton.mp hn
    decide
  obtain ⟨typescript, member, go, compared, -⟩ := negation_covers_predicate
  have call := go (.pattern 0 ⟨"main", [.field "code"]⟩ false) inert (by simp)
  exact ⟨(typescript _ (by decide)).trans (by decide), (member _ _).trans (by decide),
    call.trans (by decide), (compared _ inert).trans (by decide)⟩

end CheckedTypes
