import CheckedTypes.Binary64

namespace CheckedTypes

/-- The positive decimal number `digits * 10 ^ exponent`. -/
structure Decimal where
  digits : Nat
  exponent : Int

namespace Decimal

def fraction (d : Decimal) : Nat × Nat :=
  (d.digits * Nat.pow 10 d.exponent.toNat, Nat.pow 10 (-d.exponent).toNat)

def nearestSteps (d : Decimal) : Nat :=
  roundSignificand (d.fraction.1 * stepsPerUnit) d.fraction.2

/-- Drops the zeros at the end of the digits; `fuel` bounds their number. -/
def dropZeros (d : Decimal) : Nat → Decimal
  | 0 => d
  | fuel + 1 =>
    if d.digits % 10 = 0 then dropZeros ⟨d.digits / 10, d.exponent + 1⟩ fuel else d

/-- The least `k` with `steps / stepsPerUnit < 10 ^ k`. -/
def magnitude (steps : Nat) : Int :=
  if stepsPerUnit ≤ steps then ((Nat.toDigits 10 (steps / stepsPerUnit)).length : Int)
  else 1 - ((Nat.toDigits 10 ((stepsPerUnit - 1) / steps)).length : Int)

inductive HalfRule where
  | up
  | toEven

/-- Whether the lower neighbour, whose digits are given, comes first where both are equally near. -/
def HalfRule.prefersBelow (digits : Nat) : HalfRule → Bool
  | up => false
  | toEven => digits % 2 == 0

/-- The decimal number of at most `count` digits nearest to a positive number of steps, among those
that read back as it. -/
def ofCount? (half : HalfRule) (steps count : Nat) : Option Decimal :=
  let exponent := magnitude steps - count
  let num := steps * Nat.pow 10 (-exponent).toNat
  let den := stepsPerUnit * Nat.pow 10 exponent.toNat
  let below : Decimal := ⟨num / den, exponent⟩
  let above : Decimal := ⟨num / den + 1, exponent⟩
  let nearest :=
    if 2 * (num % den) < den || 2 * (num % den) == den && half.prefersBelow (num / den) then
      [below, above]
    else [above, below]
  nearest.find? (fun d => d.nearestSteps == steps)

/-- The shortest decimal number that reads back as the given positive number of steps, and the
nearest one of that length. -/
def shortest (half : HalfRule) (steps : Nat) : Decimal :=
  let candidate := ((List.range 17).findSome? (fun n => ofCount? half steps (n + 1))).getD ⟨0, 0⟩
  candidate.dropZeros 17

def digitChars (d : Decimal) : List Char :=
  Nat.toDigits 10 d.digits

def positional (wholeTail : String) (d : Decimal) : String :=
  let digits := d.digitChars
  let places := (-d.exponent).toNat
  if 0 ≤ d.exponent then
    String.ofList (digits ++ List.replicate d.exponent.toNat '0') ++ wholeTail
  else if places < digits.length then
    String.ofList (digits.take (digits.length - places)) ++ "." ++
      String.ofList (digits.drop (digits.length - places))
  else
    "0." ++ String.ofList (List.replicate (places - digits.length) '0' ++ digits)

def scientific (d : Decimal) : String :=
  let digits := d.digitChars
  let power := d.exponent + digits.length - 1
  let fraction := if digits.length ≤ 1 then "" else "." ++ String.ofList (digits.drop 1)
  String.ofList (digits.take 1) ++ fraction ++ "e" ++ (if power < 0 then "-" else "+") ++
    toString power.natAbs

end Decimal

namespace Binary64

def signText (x : Binary64) : String :=
  if x.negative then "-" else ""

/-- The shortest text that reads back, without an exponent and without an empty fraction. A half
goes up. -/
def plainText (x : Binary64) : String :=
  x.signText ++ (if x.isZero then "0" else (Decimal.shortest .up x.steps).positional "")

/-- The shortest text that reads back and does not look like an integer: powers of ten from the
sixteenth on and below the fifth after the point take an exponent. A half goes to the even digit. -/
def markedText (x : Binary64) : String :=
  if x.isZero then x.signText ++ "0.0"
  else
    let decimal := Decimal.shortest .toEven x.steps
    let power := decimal.exponent + decimal.digitChars.length - 1
    x.signText ++
      (if -5 ≤ power ∧ power ≤ 15 then decimal.positional ".0" else decimal.scientific)

end Binary64

end CheckedTypes
