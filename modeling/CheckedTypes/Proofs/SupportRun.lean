import CheckedTypes.Proofs.SupportFunction

namespace CheckedTypes

theorem HasShortSignificand.mod {m n : Nat} (hm : HasShortSignificand m)
    (hn : HasShortSignificand n) : HasShortSignificand (m % n) := by
  obtain ⟨a, i, ha, rfl⟩ := hm
  obtain ⟨b, j, hb, rfl⟩ := hn
  rcases Nat.le_total i j with le | le
  · refine ⟨a % (b * 2 ^ (j - i)), i, (Nat.mod_le ..).trans_lt ha, ?_⟩
    have split : b * Nat.pow 2 j = b * 2 ^ (j - i) * Nat.pow 2 i := by
      rw [Nat.mul_assoc]
      exact congrArg (b * ·) (Nat.pow_sub_mul_pow 2 le).symm
    rw [split, Nat.mul_mod_mul_right]
  · rcases Nat.eq_zero_or_pos b with rfl | positive
    · refine ⟨a, i, ha, ?_⟩
      rw [Nat.zero_mul, Nat.mod_zero]
    · refine ⟨a * 2 ^ (i - j) % b, j, (Nat.mod_lt _ positive).trans hb, ?_⟩
      have split : a * Nat.pow 2 i = a * 2 ^ (i - j) * Nat.pow 2 j := by
        rw [Nat.mul_assoc]
        exact congrArg (a * ·) (Nat.pow_sub_mul_pow 2 le).symm
      rw [split, Nat.mul_mod_mul_right]

namespace Binary64

/-- What a division leaves whose quotient is cut to an integer, with the sign of what is divided.
A division by zero leaves no number. -/
def remainder? (x divisor : Binary64) : Option Binary64 :=
  if divisor.isZero then none
  else
    some ⟨x.negative, x.steps % divisor.steps, (Nat.mod_le ..).trans_lt x.finite,
      x.short.mod divisor.short⟩

end Binary64

/-- A number as it is computed with, unless it is not one. -/
abbrev Quantity := Option Binary64

/-- What a name stands for. The value that is checked may be missing. -/
inductive Operand where
  | number (x : Quantity)
  | flag (b : Bool)
  | checked (value : Option Json)

/-- What an argument that is written out stands for. -/
def Operand.ofText? (text : String) : Option Operand :=
  if text = "true" then some (.flag true)
  else if text = "false" then some (.flag false)
  else (Binary64.ofText? text).map fun x => .number (some x)

abbrev Frame := Variable → Option Operand

namespace Frame

def number? (frame : Frame) (name : Variable) : Option Quantity :=
  match frame name with
  | some (.number x) => some x
  | _ => none

def flag? (frame : Frame) (name : Variable) : Option Bool :=
  match frame name with
  | some (.flag b) => some b
  | _ => none

/-- The value that is checked. -/
def checked? (frame : Frame) : Option (Option Json) :=
  match frame .value with
  | some (.checked value) => some value
  | _ => none

def define (frame : Frame) (name : Variable) (operand : Operand) : Frame :=
  fun other => if other = name then some operand else frame other

end Frame

/-- The elements of an array. One that is missing has none. -/
def elementsOf : Option Json → Option (List Json)
  | some (.list elements) => some elements
  | none | some .null => some []
  | _ => none

/-- The number that an expression has; there is none where an expression makes no sense. -/
def Term.value? (frame : Frame) : Term → Option Quantity
  | read name => frame.number? name
  | zero => some (some Binary64.zero)
  | checked _ => do
    let value ← frame.checked?
    (value.bind Json.asBinary64?).map some
  | characters => do
    let text ← (← frame.checked?).bind Json.asString?
    return Binary64.ofInt? text.length
  | elements => do
    let elements ← elementsOf (← frame.checked?)
    return Binary64.ofInt? elements.length
  | remainder dividend divisor => do
    let dividend ← dividend.value? frame
    let divisor ← divisor.value? frame
    return dividend.bind fun x => divisor.bind x.remainder?

/-- A comparison of numbers does not hold of what is not one. -/
def compare (relation : Binary64 → Binary64 → Bool) (left right : Quantity) : Bool :=
  left.any fun x => right.any (relation x)

/-- Whether a condition holds; `call` is what calling the function for bounds answers. The second
of two conditions is looked at only if it matters. -/
def Test.holds? (call : List Operand → Option Bool) (frame : Frame) : Test → Option Bool
  | constant b => some b
  | flag name => frame.flag? name
  | less left right => do
    return compare (fun x y => decide (x < y)) (← left.value? frame) (← right.value? frame)
  | greater left right => do
    return compare (fun x y => decide (y < x)) (← left.value? frame) (← right.value? frame)
  | equals left right => do
    return compare (fun x y => x == y) (← left.value? frame) (← right.value? frame)
  | missing => frame.checked?.map fun value => tolerates (fun _ => false) value
  | noNumber => frame.checked?.map fun value => !(value.bind Json.asBinary64?).isSome
  | noInteger =>
    frame.checked?.map fun value => !((value.bind Json.asBinary64?).any Binary64.isIntegral)
  | noText => frame.checked?.map fun value => !(value.bind Json.asString?).isSome
  | noArray => frame.checked?.map fun value => !(value matches some (.list _))
  | noSlice => frame.checked?.map fun value => !(elementsOf value).isSome
  | not test => do return !(← test.holds? call frame)
  | both left right => do if ← left.holds? call frame then right.holds? call frame else return false
  | either left right => do if ← left.holds? call frame then return true else right.holds? call frame
  | inBounds number exMin exMax => do
    let number ← number.value? frame
    let min ← frame.number? .min
    let max ← frame.number? .max
    let hasMin ← frame.flag? .hasMin
    let hasMax ← frame.flag? .hasMax
    let exMin ← exMin.holds? call frame
    let exMax ← exMax.holds? call frame
    call [.number number, .number min, .number max, .flag hasMin, .flag hasMax, .flag exMin,
      .flag exMax]

section

variable (call : List Operand → Option Bool) (distinct : List Json → Bool)

/-- What the steps of a function answer; `distinct` is what comparing the elements of an array to
each other answers. -/
def Step.run : Frame → List Step → Option Bool
  | _, [] => none
  | frame, answerIf test result :: rest => do
    if ← test.holds? call frame then return result else run frame rest
  | frame, define name term :: rest => do
    run (frame.define name (.number (← term.value? frame))) rest
  | frame, reflect :: rest => run frame rest
  | frame, compareElements :: rest => do
    let elements ← elementsOf (← frame.checked?)
    if (← frame.flag? .unique) && !distinct elements then return false else run frame rest
  | frame, answer test :: _ => test.holds? call frame

namespace SupportFunction

/-- Gives each parameter its argument: there are as many of them, each of its kind. -/
def bind? : List (Variable × Kind) → List Operand → Option Frame
  | [], [] => some fun _ => none
  | (name, .number) :: parameters, .number x :: operands =>
    (bind? parameters operands).map (·.define name (.number x))
  | (name, .flag) :: parameters, .flag b :: operands =>
    (bind? parameters operands).map (·.define name (.flag b))
  | (name, .value _) :: parameters, .checked value :: operands =>
    (bind? parameters operands).map (·.define name (.checked value))
  | _, _ => none

def parameterList (function : SupportFunction) : List (Variable × Kind) :=
  function.parameters.flatMap fun (names, kind) => names.map (·, kind)

def result? (function : SupportFunction) (operands : List Operand) : Option Bool := do
  Step.run call distinct (← bind? function.parameterList operands) function.steps

end SupportFunction

end

/-- Whether a number is within bounds, as the function for bounds answers it. -/
def boundsAnswer (operands : List Operand) : Option Bool :=
  boundsFunction.result? (fun _ => none) (fun _ => false) operands

/-- What a function answers when it is called with arguments that are written out and with the
value that is checked. -/
def SupportFunction.answer? (function : SupportFunction) (distinct : List Json → Bool)
    (arguments : List String) (value : Option Json) : Option Bool := do
  let operands ← arguments.mapM Operand.ofText?
  function.result? boundsAnswer distinct (operands ++ [.checked value])

end CheckedTypes
