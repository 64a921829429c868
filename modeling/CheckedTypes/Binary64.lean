import CheckedTypes.Rounding

namespace CheckedTypes

def stepsPerUnit : Nat :=
  Nat.pow 2 1074

def stepLimit : Nat :=
  Nat.pow 2 2098

/-- A finite binary floating-point number of 64 bits, held exactly: its magnitude is a number of
steps, each the least positive number. Zero keeps its sign. -/
structure Binary64 where
  negative : Bool
  steps : Nat
  finite : steps < stepLimit
  short : HasShortSignificand steps

namespace Binary64

def toInt (x : Binary64) : Int :=
  if x.negative then -(x.steps : Int) else x.steps

/-- Numbers are equal when their values are: the sign of zero does not count. -/
instance : BEq Binary64 where
  beq x y := x.toInt == y.toInt

instance : LT Binary64 where
  lt x y := x.toInt < y.toInt

instance : LE Binary64 where
  le x y := x.toInt ≤ y.toInt

instance (x y : Binary64) : Decidable (x < y) :=
  inferInstanceAs (Decidable (x.toInt < y.toInt))

instance (x y : Binary64) : Decidable (x ≤ y) :=
  inferInstanceAs (Decidable (x.toInt ≤ y.toInt))

/-- The number nearest to `num / den` steps, unless that is beyond the finite ones. -/
def ofSteps? (negative : Bool) (num den : Nat) : Option Binary64 :=
  if finite : roundSignificand num den < stepLimit then
    some ⟨negative, roundSignificand num den, finite, roundSignificand_short num den⟩
  else none

def ofInt? (n : Int) : Option Binary64 :=
  ofSteps? (n < 0) (n.natAbs * stepsPerUnit) 1

def withSign (x : Binary64) (negative : Bool) : Binary64 :=
  { x with negative }

def isZero (x : Binary64) : Bool :=
  x.steps == 0

def mul? (x y : Binary64) : Option Binary64 :=
  ofSteps? (x.negative != y.negative) (x.steps * y.steps) stepsPerUnit

def div? (x y : Binary64) : Option Binary64 :=
  if y.isZero then none
  else ofSteps? (x.negative != y.negative) (x.steps * stepsPerUnit) y.steps

def isIntegral (x : Binary64) : Bool :=
  x.steps % stepsPerUnit == 0

/-- Dividing by zero leaves no remainder that could be zero. -/
def isMultipleOf (x divisor : Binary64) : Bool :=
  !divisor.isZero && x.steps % divisor.steps == 0

end Binary64

end CheckedTypes
