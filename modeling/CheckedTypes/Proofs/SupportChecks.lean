import CheckedTypes.Proofs.SupportRun

namespace CheckedTypes

/-- A limit that is there keeps out what is beyond it, and what is at it if that is excluded. -/
def keeps (beyond : Binary64 → Binary64 → Bool) (x limit : Quantity) (has excluded : Bool) : Bool :=
  !(has && (compare beyond x limit || excluded && compare (fun x y => x == y) x limit))

def keepsMin (x min : Quantity) (hasMin exMin : Bool) : Bool :=
  keeps (fun x y => decide (x < y)) x min hasMin exMin

def keepsMax (x max : Quantity) (hasMax exMax : Bool) : Bool :=
  keeps (fun x y => decide (y < x)) x max hasMax exMax

theorem ite_some_and (a b : Bool) : (if a then some b else some false) = some (a && b) := by
  cases a <;> rfl

theorem ite_some_or (a b : Bool) : (if a then some true else some b) = some (a || b) := by
  cases a <;> rfl

theorem ite_some_not_and (a b : Bool) : (if a then some false else some b) = some (!a && b) := by
  cases a <;> rfl

theorem boundsAnswer_eq (x min max : Quantity) (hasMin hasMax exMin exMax : Bool) :
    boundsAnswer [.number x, .number min, .number max, .flag hasMin, .flag hasMax, .flag exMin,
      .flag exMax] = some (keepsMin x min hasMin exMin && keepsMax x max hasMax exMax) := by
  simp [boundsAnswer, SupportFunction.result?, SupportFunction.parameterList, boundsFunction,
    SupportFunction.bind?, Step.run, Test.holds?, Term.value?, Frame.define, Frame.number?,
    Frame.flag?, keepsMin, keepsMax, keeps, ite_some_and, ite_some_or, ite_some_not_and]

namespace Operand

theorem ofText?_plainText (x : Binary64) : ofText? x.plainText = some (.number (some x)) := by
  have reads := x.ofText?_plainText
  have noTrue : x.plainText ≠ "true" := by
    intro same
    rw [same, show Binary64.ofText? "true" = none from rfl] at reads
    cases reads
  have noFalse : x.plainText ≠ "false" := by
    intro same
    rw [same, show Binary64.ofText? "false" = none from rfl] at reads
    cases reads
  rw [ofText?, if_neg noTrue, if_neg noFalse, reads]
  rfl

theorem ofText?_flagLiteral (b : Bool) : ofText? (flagLiteral b) = some (.flag b) := by
  cases b <;> rfl

end Operand

/-- The value of a bound, and zero where there is none. -/
def Bound.limit (bound : Option Bound) : Binary64 :=
  (bound.map Bound.value).getD Binary64.zero

theorem Operand.ofText?_literal (bound : Option Bound) :
    ofText? (Bound.literal bound) = some (.number (some (Bound.limit bound))) := by
  cases bound with
  | none =>
    show ofText? Binary64.zero.plainText = _
    exact ofText?_plainText Binary64.zero
  | some bound => exact ofText?_plainText bound.value

theorem Operand.ofText?_one : ofText? "1" = some (.number (some Binary64.one)) := by
  have digits : Decimal.positional "" ⟨1, 0⟩ = "1" := rfl
  have written := Decimal.writtenAs_positional (d := ⟨1, 0⟩) Nat.one_pos
  have near : Decimal.nearestSteps ⟨1, 0⟩ = Binary64.one.steps := by
    rw [Decimal.nearestSteps_mk, Int.toNat_zero, Int.neg_zero, Int.toNat_zero, Nat.pow_zero,
      Nat.mul_one, Nat.mul_one]
    exact (congrArg (roundSignificand · 1) (Nat.one_mul stepsPerUnit).symm).trans
      (roundSignificand_exact Binary64.one.short)
  have reads := written.ofText? near
  rw [digits, show Binary64.one.signText = "" from rfl, String.empty_append] at reads
  rw [ofText?, if_neg (by decide), if_neg (by decide), reads]
  rfl

/-- A count, if there is one, has 64 bits. -/
def HasWord (count : Option Nat) : Prop :=
  ∀ n, count = some n → n < 2 ^ 64

theorem Operand.ofText?_countLiteral {count : Option Nat} (small : HasWord count) :
    ofText? (countLiteral count) = some (.number (Binary64.ofInt? (count.getD 0))) := by
  have bound : count.getD 0 < 2 ^ 64 := by
    cases count with
    | none => exact Nat.two_pow_pos 64
    | some n => exact small n rfl
  obtain ⟨x, hx⟩ := Option.isSome_iff_exists.mp (Binary64.ofInt?_isSome bound)
  rw [countLiteral, hx]
  exact ofText?_plainText x

/-- What the arguments for a number say. -/
structure NumericArguments where
  min : Quantity
  max : Quantity
  hasMin : Bool
  hasMax : Bool
  exMin : Bool
  exMax : Bool
  multiple : Quantity
  useMultiple : Bool

namespace NumericArguments

def operands (arguments : NumericArguments) : List Operand :=
  [.number arguments.min, .number arguments.max, .flag arguments.hasMin, .flag arguments.hasMax,
   .flag arguments.exMin, .flag arguments.exMax, .number arguments.multiple,
   .flag arguments.useMultiple]

/-- What the arguments for a number say, as they are written. -/
def written (constraints : NumericConstraints) : NumericArguments where
  min := some (Bound.limit constraints.minimum)
  max := some (Bound.limit constraints.maximum)
  hasMin := constraints.minimum.isSome
  hasMax := constraints.maximum.isSome
  exMin := constraints.minimum.any Bound.exclusive
  exMax := constraints.maximum.any Bound.exclusive
  multiple := some (constraints.multipleOf.getD Binary64.one)
  useMultiple := constraints.multipleOf.isSome

end NumericArguments

/-- What the arguments for a number stand for. -/
theorem NumericConstraints.operands (constraints : NumericConstraints) :
    constraints.arguments.mapM Operand.ofText? =
      some (NumericArguments.written constraints).operands := by
  have multiple : Operand.ofText? ((constraints.multipleOf.map Binary64.plainText).getD "1") =
      some (.number (some (constraints.multipleOf.getD Binary64.one))) := by
    cases constraints.multipleOf with
    | none => exact Operand.ofText?_one
    | some divisor => exact Operand.ofText?_plainText divisor
  simp [arguments, Operand.ofText?_literal, Operand.ofText?_flagLiteral, multiple,
    NumericArguments.operands, NumericArguments.written]

/-- What the arguments for a text stand for. -/
theorem StringConstraints.operands {constraints : StringConstraints}
    (least : HasWord constraints.minLength) (most : HasWord constraints.maxLength) :
    constraints.arguments.mapM Operand.ofText? =
      some [.number (Binary64.ofInt? (constraints.minLength.getD 0)),
        .number (Binary64.ofInt? (constraints.maxLength.getD 0)),
        .flag constraints.minLength.isSome, .flag constraints.maxLength.isSome] := by
  simp [arguments, Operand.ofText?_countLiteral least, Operand.ofText?_countLiteral most,
    Operand.ofText?_flagLiteral]

/-- What the arguments for an array stand for. -/
theorem ArrayConstraints.operands {constraints : ArrayConstraints}
    (least : HasWord constraints.minItems) (most : HasWord constraints.maxItems) :
    constraints.arguments.mapM Operand.ofText? =
      some [.number (Binary64.ofInt? (constraints.minItems.getD 0)),
        .number (Binary64.ofInt? (constraints.maxItems.getD 0)),
        .flag constraints.minItems.isSome, .flag constraints.maxItems.isSome,
        .flag constraints.uniqueItems] := by
  simp [arguments, Operand.ofText?_countLiteral least, Operand.ofText?_countLiteral most,
    Operand.ofText?_flagLiteral]

theorem keeps_limit {beyond : Binary64 → Binary64 → Bool} {x : Binary64} {admits : Bound → Bool}
    (side : ∀ bound, admits bound = true ↔
      beyond x bound.value = false ∧ (bound.exclusive = false ∨ x.toInt ≠ bound.value.toInt))
    (limit : Option Bound) :
    keeps beyond (some x) (some (Bound.limit limit)) limit.isSome (limit.any Bound.exclusive) =
      limit.all admits := by
  cases limit with
  | none => rfl
  | some bound =>
    rw [Bool.eq_iff_iff]
    show keeps beyond (some x) (some bound.value) true bound.exclusive = true ↔ admits bound = true
    have apart : (x == bound.value) = false ↔ x.toInt ≠ bound.value.toInt := by
      rw [Ne, ← Binary64.beq_iff, Bool.not_eq_true]
    rw [side]
    simp [keeps, compare, apart]

theorem keepsMin_limit (x : Binary64) (minimum : Option Bound) :
    keepsMin (some x) (some (Bound.limit minimum)) minimum.isSome (minimum.any Bound.exclusive) =
      minimum.all (·.admitsAbove x) := by
  refine keeps_limit (fun bound => ?_) minimum
  rw [Bound.admitsAbove_iff, decide_eq_false_iff_not]
  show bound.value.toInt < x.toInt ∨ bound.value.toInt ≤ x.toInt ∧ _ ↔
    ¬x.toInt < bound.value.toInt ∧ _
  cases bound.exclusive <;> simp <;> omega

theorem keepsMax_limit (x : Binary64) (maximum : Option Bound) :
    keepsMax (some x) (some (Bound.limit maximum)) maximum.isSome (maximum.any Bound.exclusive) =
      maximum.all (·.admitsBelow x) := by
  refine keeps_limit (fun bound => ?_) maximum
  rw [Bound.admitsBelow_iff, decide_eq_false_iff_not]
  show x.toInt < bound.value.toInt ∨ x.toInt ≤ bound.value.toInt ∧ _ ↔
    ¬bound.value.toInt < x.toInt ∧ _
  cases bound.exclusive <;> simp <;> omega

/-- A count keeps a limit as the number next to it does, which may be rounded. -/
theorem keeps_count {beyond : Binary64 → Binary64 → Bool} {within : Nat → Bool} {n : Nat}
    {limit : Option Nat} (small : n < significandEnd) (bounded : HasWord limit)
    (side : ∀ (m : Nat) x y, Binary64.ofInt? n = some x → Binary64.ofInt? m = some y →
      (beyond x y = false ↔ within m = true)) :
    keeps beyond (Binary64.ofInt? n) (Binary64.ofInt? (limit.getD 0)) limit.isSome false =
      limit.all within := by
  cases limit with
  | none => rfl
  | some m =>
    have word : n < 2 ^ 64 := small.trans (by decide)
    obtain ⟨x, hx⟩ := Option.isSome_iff_exists.mp (Binary64.ofInt?_isSome word)
    obtain ⟨y, hy⟩ := Option.isSome_iff_exists.mp (Binary64.ofInt?_isSome (bounded m rfl))
    rw [Option.getD_some, hx, hy, Option.all_some, Bool.eq_iff_iff, ← side m x y hx hy]
    simp [keeps, compare]

theorem keepsMin_count {n : Nat} {least : Option Nat} (small : n < significandEnd)
    (bounded : HasWord least) :
    keepsMin (Binary64.ofInt? n) (Binary64.ofInt? (least.getD 0)) least.isSome false =
      least.all (· ≤ n) := by
  refine keeps_count small bounded fun m x y hx hy => ?_
  have order := Binary64.ofInt?_lt_iff hx hy (.inl small)
  rw [decide_eq_false_iff_not, order, decide_eq_true_eq, not_lt]

theorem keepsMax_count {n : Nat} {most : Option Nat} (small : n < significandEnd)
    (bounded : HasWord most) :
    keepsMax (Binary64.ofInt? n) (Binary64.ofInt? (most.getD 0)) most.isSome false =
      most.all (n ≤ ·) := by
  refine keeps_count small bounded fun m x y hx hy => ?_
  have order := Binary64.ofInt?_lt_iff hy hx (.inr small)
  rw [decide_eq_false_iff_not, order, decide_eq_true_eq, not_lt]

/-- The remainder is zero exactly of multiples. -/
theorem compare_remainder? (x : Binary64) (divisor : Binary64) :
    compare (fun x y => x == y) (x.remainder? divisor) (some Binary64.zero) =
      x.isMultipleOf divisor := by
  cases zero : divisor.isZero with
  | true => simp [Binary64.remainder?, Binary64.isMultipleOf, compare, zero]
  | false =>
    rw [Binary64.remainder?, zero, Binary64.isMultipleOf, zero, Bool.eq_iff_iff]
    show (_ == Binary64.zero) = true ↔ _
    have none : Binary64.zero.toInt = 0 := rfl
    rw [Binary64.beq_iff, none, Binary64.toInt_eq_zero_iff]
    simp

theorem multipleOf_all (x : Binary64) (multipleOf : Option Binary64) :
    (!multipleOf.isSome || compare (fun x y => x == y)
      (x.remainder? (multipleOf.getD Binary64.one)) (some Binary64.zero)) =
      multipleOf.all x.isMultipleOf := by
  cases multipleOf with
  | none => rfl
  | some divisor => simp [compare_remainder?]

section

variable {call : List Operand → Option Bool} {distinct : List Json → Bool} {frame : Frame}

theorem Test.not_holds? {test : Test} {b : Bool} (h : test.holds? call frame = some b) :
    (not test).holds? call frame = some !b := by
  rw [holds?, h]
  rfl

theorem Test.either_holds? {left right : Test} {a b : Bool} (hl : left.holds? call frame = some a)
    (hr : right.holds? call frame = some b) :
    (either left right).holds? call frame = some (a || b) := by
  rw [holds?, hl, hr]
  cases a <;> rfl

theorem Test.equals_holds? {left right : Term} {x y : Quantity} (hl : left.value? frame = some x)
    (hr : right.value? frame = some y) :
    (equals left right).holds? call frame = some (compare (fun x y => x == y) x y) := by
  rw [holds?, hl, hr]
  rfl

theorem Test.inBounds_holds? {number : Term} {exMinTest exMaxTest : Test} {x min max : Quantity}
    {hasMin hasMax exMin exMax : Bool} (value : number.value? frame = some x)
    (atMin : frame.number? .min = some min) (atMax : frame.number? .max = some max)
    (atHasMin : frame.flag? .hasMin = some hasMin) (atHasMax : frame.flag? .hasMax = some hasMax)
    (atExMin : exMinTest.holds? boundsAnswer frame = some exMin)
    (atExMax : exMaxTest.holds? boundsAnswer frame = some exMax) :
    (inBounds number exMinTest exMaxTest).holds? boundsAnswer frame =
      some (keepsMin x min hasMin exMin && keepsMax x max hasMax exMax) := by
  rw [holds?, value, atMin, atMax, atHasMin, atHasMax, atExMin, atExMax]
  exact boundsAnswer_eq ..

theorem Step.run_answerIf {test : Test} {b : Bool} (h : test.holds? call frame = some b)
    (result : Bool) (rest : List Step) :
    run call distinct frame (answerIf test result :: rest) =
      if b then some result else run call distinct frame rest := by
  rw [run, h]
  rfl

theorem Step.run_define {name : Variable} {term : Term} {x : Quantity}
    (h : term.value? frame = some x) (rest : List Step) :
    run call distinct frame (define name term :: rest) =
      run call distinct (frame.define name (.number x)) rest := by
  rw [run, h]
  rfl

end

namespace NumericArguments

def accept (arguments : NumericArguments) (x : Binary64) : Bool :=
  keepsMin (some x) arguments.min arguments.hasMin arguments.exMin &&
    keepsMax (some x) arguments.max arguments.hasMax arguments.exMax &&
    (!arguments.useMultiple || compare (fun x y => x == y)
      (arguments.multiple.bind x.remainder?) (some Binary64.zero))

theorem written_accept (constraints : NumericConstraints) (x : Binary64) :
    (written constraints).accept x = constraints.admits x := by
  rw [NumericConstraints.admits, ← keepsMin_limit, ← keepsMax_limit, ← multipleOf_all]
  rfl

/-- The names of the arguments stand for them. -/
structure In (arguments : NumericArguments) (frame : Frame) : Prop where
  min : frame.number? .min = some arguments.min
  max : frame.number? .max = some arguments.max
  hasMin : frame.flag? .hasMin = some arguments.hasMin
  hasMax : frame.flag? .hasMax = some arguments.hasMax
  exMin : frame.flag? .exMin = some arguments.exMin
  exMax : frame.flag? .exMax = some arguments.exMax
  multiple : frame.number? .multiple = some arguments.multiple
  useMultiple : frame.flag? .useMultiple = some arguments.useMultiple

end NumericArguments

namespace SupportFunction

variable (distinct : List Json → Bool)

theorem run_numericSteps {arguments : NumericArguments} {frame : Frame} {number : Term}
    {x : Binary64} (named : arguments.In frame) (value : number.value? frame = some (some x)) :
    Step.run boundsAnswer distinct frame (numericSteps number) = some (arguments.accept x) := by
  have atExMin : (Test.flag .exMin).holds? boundsAnswer frame = some arguments.exMin := named.exMin
  have atExMax : (Test.flag .exMax).holds? boundsAnswer frame = some arguments.exMax := named.exMax
  have within := Test.inBounds_holds? value named.min named.max named.hasMin named.hasMax atExMin
    atExMax
  have rest : (Term.remainder number (.read .multiple)).value? frame =
      some (arguments.multiple.bind x.remainder?) := by
    rw [Term.value?, value, Term.value?, named.multiple]
    rfl
  have unused : (Test.not (.flag .useMultiple)).holds? boundsAnswer frame =
      some !arguments.useMultiple := Test.not_holds? named.useMultiple
  have divides := Test.either_holds? unused
    (Test.equals_holds? rest (show Term.value? frame .zero = some (some Binary64.zero) from rfl))
  rw [numericSteps, Step.run_answerIf (Test.not_holds? within), Step.run, divides]
  unfold NumericArguments.accept
  cases keepsMin (some x) arguments.min arguments.hasMin arguments.exMin <;>
    cases keepsMax (some x) arguments.max arguments.hasMax arguments.exMax <;> rfl

theorem bind_numericParameters (function : SupportFunction) {type : String}
    (h : function.parameters = numericParameters type) (arguments : NumericArguments)
    (value : Option Json) : ∃ frame,
      bind? function.parameterList (arguments.operands ++ [.checked value]) = some frame ∧
      arguments.In frame ∧ frame.checked? = some value := by
  rw [parameterList, h]
  exact ⟨_, rfl, ⟨rfl, rfl, rfl, rfl, rfl, rfl, rfl, rfl⟩, rfl⟩

theorem result?_eq_run {function : SupportFunction} {operands : List Operand} {frame : Frame}
    (bound : bind? function.parameterList operands = some frame) :
    function.result? boundsAnswer distinct operands =
      Step.run boundsAnswer distinct frame function.steps := by
  rw [result?, bound]
  rfl

/-- A function that asks first whether the value is missing lets it pass if it is. -/
theorem result?_of_missing {function : SupportFunction} {operands : List Operand} {frame : Frame}
    {value : Option Json} {rest : List Step}
    (bound : bind? function.parameterList operands = some frame)
    (held : frame.checked? = some value) (begins : function.steps = .answerIf .missing true :: rest) :
    function.result? boundsAnswer distinct operands =
      if tolerates (fun _ => false) value then some true
      else Step.run boundsAnswer distinct frame rest := by
  rw [result?_eq_run distinct bound, begins]
  apply Step.run_answerIf
  rw [Test.holds?, held]
  rfl

theorem tolerates_of_asBinary64? {value : Json} {x : Binary64} (h : value.asBinary64? = some x) :
    tolerates (fun _ => false) (some value) = false := by
  cases value with
  | null => cases h
  | _ => rfl

theorem checked_value? {frame : Frame} {value : Json} {x : Binary64}
    (held : frame.checked? = some (some value)) (h : value.asBinary64? = some x)
    (converted : Bool) : (Term.checked converted).value? frame = some (some x) := by
  rw [Term.value?, held]
  exact congrArg (Option.map some) h

theorem noNumber_holds? {frame : Frame} {value : Json} {x : Binary64}
    (held : frame.checked? = some (some value)) (h : value.asBinary64? = some x) :
    Test.noNumber.holds? boundsAnswer frame = some false := by
  rw [Test.holds?, held]
  exact congrArg (fun y : Option Binary64 => some !y.isSome) h

variable (target : Target)

theorem number_result? (arguments : NumericArguments) {value : Json} {x : Binary64}
    (h : value.asBinary64? = some x) :
    (number target).result? boundsAnswer distinct (arguments.operands ++ [.checked (some value)]) =
      some (arguments.accept x) := by
  obtain ⟨frame, bound, named, held⟩ := bind_numericParameters (number target) rfl
    arguments (some value)
  have checks := run_numericSteps distinct named (checked_value? held h false)
  have present := tolerates_of_asBinary64? h
  cases target with
  | go =>
    rw [result?_of_missing distinct bound held rfl, present]
    exact checks
  | typescript =>
    rw [result?_of_missing distinct bound held rfl, present]
    exact (Step.run_answerIf (noNumber_holds? held h) false _).trans checks

theorem integer_result? (arguments : NumericArguments) {value : Json} {x : Binary64}
    (h : value.asBinary64? = some x) (whole : x.isIntegral = true) :
    (integer target).result? boundsAnswer distinct (arguments.operands ++ [.checked (some value)]) =
      some (arguments.accept x) := by
  obtain ⟨frame, bound, named, held⟩ := bind_numericParameters (integer target) rfl
    arguments (some value)
  have present := tolerates_of_asBinary64? h
  cases target with
  | go =>
    rw [result?_of_missing distinct bound held rfl, present]
    refine (Step.run_define (checked_value? held h true) _).trans ?_
    have renamed : arguments.In (frame.define .number (.number (some x))) :=
      ⟨named.min, named.max, named.hasMin, named.hasMax, named.exMin, named.exMax, named.multiple,
        named.useMultiple⟩
    exact run_numericSteps distinct renamed rfl
  | typescript =>
    rw [result?_of_missing distinct bound held rfl, present]
    have fraction : Test.noInteger.holds? boundsAnswer frame = some false := by
      rw [Test.holds?, held]
      show some (!(value.asBinary64?.any Binary64.isIntegral)) = some false
      rw [h, Option.any_some, whole]
      rfl
    have kind := Test.either_holds? (noNumber_holds? held h) fraction
    refine (Step.run_answerIf kind false _).trans ?_
    exact run_numericSteps distinct named (checked_value? held h false)

/-- What the arguments for limits of a count say. -/
theorem withinLimits_holds? (number : Term) {frame : Frame} {x min max : Quantity}
    {hasMin hasMax : Bool} (value : number.value? frame = some x)
    (atMin : frame.number? .min = some min) (atMax : frame.number? .max = some max)
    (atHasMin : frame.flag? .hasMin = some hasMin) (atHasMax : frame.flag? .hasMax = some hasMax) :
    (Test.inBounds number (.constant false) (.constant false)).holds? boundsAnswer frame =
      some (keepsMin x min hasMin false && keepsMax x max hasMax false) :=
  Test.inBounds_holds? value atMin atMax atHasMin atHasMax rfl rfl

theorem string_result? (min max : Quantity) (hasMin hasMax : Bool) (text : String) :
    (string target).result? boundsAnswer distinct [.number min, .number max, .flag hasMin,
      .flag hasMax, .checked (some (.string text))] =
      some (keepsMin (Binary64.ofInt? text.length) min hasMin false &&
        keepsMax (Binary64.ofInt? text.length) max hasMax false) := by
  cases target with
  | go =>
    rw [result?_of_missing distinct rfl rfl rfl]
    refine (Step.run_define rfl _).trans ?_
    exact withinLimits_holds? (.read .length) rfl rfl rfl rfl rfl
  | typescript =>
    rw [result?_of_missing distinct rfl rfl rfl]
    refine (Step.run_answerIf (b := false) rfl false _).trans ?_
    exact withinLimits_holds? .characters rfl rfl rfl rfl rfl

theorem run_elementSteps {frame : Frame} {min max : Quantity} {hasMin hasMax unique : Bool}
    {elements : List Json} (held : frame.checked? = some (some (.list elements)))
    (atMin : frame.number? .min = some min) (atMax : frame.number? .max = some max)
    (atHasMin : frame.flag? .hasMin = some hasMin) (atHasMax : frame.flag? .hasMax = some hasMax)
    (atUnique : frame.flag? .unique = some unique) :
    Step.run boundsAnswer distinct frame elementSteps =
      some (keepsMin (Binary64.ofInt? elements.length) min hasMin false &&
        keepsMax (Binary64.ofInt? elements.length) max hasMax false &&
        (!unique || distinct elements)) := by
  have count : Term.elements.value? frame = some (Binary64.ofInt? elements.length) := by
    rw [Term.value?, held]
    rfl
  have within := withinLimits_holds? .elements count atMin atMax atHasMin atHasMax
  have compared : Step.run boundsAnswer distinct frame [.compareElements, .answer (.constant true)] =
      some (!unique || distinct elements) := by
    rw [Step.run, held, atUnique]
    show (if unique && !distinct elements then some false else some true) = _
    cases unique <;> cases distinct elements <;> rfl
  rw [elementSteps, Step.run_answerIf (Test.not_holds? within), compared]
  cases keepsMin (Binary64.ofInt? elements.length) min hasMin false <;>
    cases keepsMax (Binary64.ofInt? elements.length) max hasMax false <;> rfl

theorem array_result? (min max : Quantity) (hasMin hasMax unique : Bool) (elements : List Json) :
    (array target).result? boundsAnswer distinct [.number min, .number max, .flag hasMin,
      .flag hasMax, .flag unique, .checked (some (.list elements))] =
      some (keepsMin (Binary64.ofInt? elements.length) min hasMin false &&
        keepsMax (Binary64.ofInt? elements.length) max hasMax false &&
        (!unique || distinct elements)) := by
  cases target with
  | go =>
    rw [result?_eq_run distinct rfl]
    refine (Step.run_answerIf (b := false) rfl false _).trans ?_
    exact run_elementSteps distinct rfl rfl rfl rfl rfl rfl
  | typescript =>
    rw [result?_of_missing distinct rfl rfl rfl]
    refine (Step.run_answerIf (b := false) rfl false _).trans ?_
    exact run_elementSteps distinct rfl rfl rfl rfl rfl rfl

end SupportFunction

namespace SupportFunction

variable (target : Target) (distinct : List Json → Bool)

theorem answer?_of_operands {function : SupportFunction} {arguments : List String}
    {operands : List Operand} (reads : arguments.mapM Operand.ofText? = some operands)
    (value : Option Json) :
    function.answer? distinct arguments value =
      function.result? boundsAnswer distinct (operands ++ [.checked value]) := by
  rw [answer?, reads]
  rfl

theorem number_answer? (constraints : NumericConstraints) {value : Json} {x : Binary64}
    (h : value.asBinary64? = some x) :
    (number target).answer? distinct constraints.arguments (some value) =
      some (constraints.admits x) := by
  rw [answer?_of_operands distinct constraints.operands, ← NumericArguments.written_accept]
  exact number_result? distinct target (NumericArguments.written constraints) h

theorem integer_answer? (constraints : NumericConstraints) {value : Json} {x : Binary64}
    (h : value.asBinary64? = some x) (whole : x.isIntegral = true) :
    (integer target).answer? distinct constraints.arguments (some value) =
      some (constraints.admits x) := by
  rw [answer?_of_operands distinct constraints.operands, ← NumericArguments.written_accept]
  exact integer_result? distinct target (NumericArguments.written constraints) h whole

theorem string_answer? {constraints : StringConstraints} (least : HasWord constraints.minLength)
    (most : HasWord constraints.maxLength) {text : String} (short : text.length < 2 ^ 53) :
    (string target).answer? distinct constraints.arguments (some (.string text)) =
      some (constraints.admitsLength text) := by
  rw [answer?_of_operands distinct (StringConstraints.operands least most),
    StringConstraints.admitsLength, ← keepsMin_count short least, ← keepsMax_count short most]
  exact string_result? distinct target ..

theorem array_answer? {constraints : ArrayConstraints} (least : HasWord constraints.minItems)
    (most : HasWord constraints.maxItems) {elements : List Json}
    (short : elements.length < 2 ^ 53) :
    (array target).answer? distinct constraints.arguments (some (.list elements)) =
      some (constraints.minItems.all (· ≤ elements.length) &&
        constraints.maxItems.all (elements.length ≤ ·) &&
        (!constraints.uniqueItems || distinct elements)) := by
  rw [answer?_of_operands distinct (ArrayConstraints.operands least most),
    ← keepsMin_count short least, ← keepsMax_count short most]
  exact array_result? distinct target ..

end SupportFunction

/-- The functions that are in the support text answer, called with the arguments that are written,
what the check of instances finds: whatever comparing elements to each other answers is the only
other thing that the answer for an array depends on. -/
theorem support_functions_answer_checks (target : Target) (distinct : List Json → Bool) :
    (∀ function ∈ supportFunctions target, function.lines target <:+: target.supportLines) ∧
    (∀ (cursor : Cursor) (optional : Bool),
      (∀ constraints, (Predicate.number constraints cursor optional).text target =
        (SupportFunction.number target).called
          (constraints.arguments ++ [target.valueArgument cursor .number optional])) ∧
      (∀ constraints, (Predicate.integer constraints cursor optional).text target =
        (SupportFunction.integer target).called
          (constraints.arguments ++ [target.valueArgument cursor .integer optional])) ∧
      (∀ constraints, (Predicate.length constraints cursor optional).text target =
        (SupportFunction.string target).called
          (constraints.arguments ++ [target.valueArgument cursor .string optional])) ∧
      ∀ constraints, (Predicate.array constraints cursor).text target =
        (SupportFunction.array target).called
          (constraints.arguments ++ [target.expression cursor])) ∧
    (∀ (constraints : NumericConstraints) (value : Json) (x : Binary64),
      value.asBinary64? = some x →
      (SupportFunction.number target).answer? distinct constraints.arguments (some value) =
        some (constraints.admits x) ∧
      (x.isIntegral = true →
        (SupportFunction.integer target).answer? distinct constraints.arguments (some value) =
          some (constraints.admits x))) ∧
    (∀ (constraints : StringConstraints) (text : String), HasWord constraints.minLength →
      HasWord constraints.maxLength → text.length < 2 ^ 53 →
      (SupportFunction.string target).answer? distinct constraints.arguments
        (some (.string text)) = some (constraints.admitsLength text)) ∧
    (∀ (constraints : ArrayConstraints) (elements : List Json), HasWord constraints.minItems →
      HasWord constraints.maxItems → elements.length < 2 ^ 53 →
      (SupportFunction.array target).answer? distinct constraints.arguments
        (some (.list elements)) =
        some ({ constraints with uniqueItems := false }.admits elements &&
          (!constraints.uniqueItems || distinct elements))) := by
  refine ⟨supportFunctions_written target, support_functions_called target, ?_, ?_, ?_⟩
  · intro constraints value x h
    exact ⟨SupportFunction.number_answer? target distinct constraints h,
      SupportFunction.integer_answer? target distinct constraints h⟩
  · intro constraints text least most short
    exact SupportFunction.string_answer? target distinct least most short
  · intro constraints elements least most short
    have counts : { constraints with uniqueItems := false }.admits elements =
        (constraints.minItems.all (· ≤ elements.length) &&
          constraints.maxItems.all (elements.length ≤ ·)) := by
      simp [ArrayConstraints.admits]
    rw [counts]
    exact SupportFunction.array_answer? target distinct least most short

/-- A bound of a count that no floating-point number is equal to, and a number that is a multiple of
one but not more than its excluded bound. -/
theorem support_functions_answer_checks_rounded :
    let numeric : NumericConstraints := ⟨some ⟨Binary64.one, true⟩, none, some Binary64.one⟩
    let text : StringConstraints := { maxLength := some (2 ^ 53 + 1) }
    let array : ArrayConstraints := { minItems := some (2 ^ 53 + 1), uniqueItems := true }
    (Json.number (.real Binary64.one)).asBinary64? = some Binary64.one ∧
    Binary64.one.isIntegral = true ∧
    (SupportFunction.number .go).answer? (fun _ => true) numeric.arguments
      (some (.number (.real Binary64.one))) = some false ∧
    (SupportFunction.integer .go).answer? (fun _ => true) numeric.arguments
      (some (.number (.real Binary64.one))) = some false ∧
    HasWord text.minLength ∧ HasWord text.maxLength ∧ "é€".length < 2 ^ 53 ∧
    (SupportFunction.string .go).answer? (fun _ => true) text.arguments (some (.string "é€")) =
      some true ∧
    HasWord array.minItems ∧ HasWord array.maxItems ∧ [Json.null].length < 2 ^ 53 ∧
    (SupportFunction.array .go).answer? (fun _ => true) array.arguments (some (.list [.null])) =
      some false := by
  intro numeric text array
  obtain ⟨-, -, numbers, texts, arrays⟩ := support_functions_answer_checks .go (fun _ => true)
  have none_word : HasWord none := fun _ h => by cases h
  have word : HasWord (some (2 ^ 53 + 1)) := by
    rintro n ⟨⟩
    decide
  have whole : Binary64.one.isIntegral = true := by decide +kernel
  have refused : numeric.admits Binary64.one = false := by decide +kernel
  have number := numbers numeric (.number (.real Binary64.one)) Binary64.one rfl
  rw [refused] at number
  have short : "é€".length < 2 ^ 53 := by decide
  have string := texts text "é€" none_word word short
  have list := arrays array [.null] word none_word (by decide)
  exact ⟨rfl, whole, number.1, number.2 whole, none_word, word, short, string, word, none_word,
    by decide, list⟩

end CheckedTypes
