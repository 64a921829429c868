import CheckedTypes.JsonNumeral

namespace CheckedTypes

def significandLimit : Nat :=
  0xffffffffffffffff

/-- A significand built digit by digit: digits that do not fit any more are counted, not kept. -/
structure Significand where
  kept : Nat := 0
  dropped : Nat := 0

namespace Significand

def pushWhole (s : Significand) (d : Nat) : Significand :=
  if s.dropped = 0 ∧ s.kept * 10 + d ≤ significandLimit then { s with kept := s.kept * 10 + d }
  else { s with dropped := s.dropped + 1 }

def ofWhole (digits : List Nat) : Significand :=
  digits.foldl pushWhole {}

/-- Appends the digits of a fraction while they fit; the second part counts them. -/
def appendFraction (kept : Nat) : List Nat → Nat × Nat
  | [] => (kept, 0)
  | d :: digits =>
    if kept * 10 + d ≤ significandLimit then
      let (kept, count) := appendFraction (kept * 10 + d) digits
      (kept, count + 1)
    else (kept, 0)

end Significand

def powerOfTen? (n : Nat) : Option Binary64 :=
  Binary64.ofSteps? false (Nat.pow 10 n * stepsPerUnit) 1

def greatestPower : Nat := 308

/-- Divides by the greatest power of ten again and again, up to `times` times: zero stays zero. -/
def shrinkByTen (power x : Binary64) : Nat → Option Binary64
  | 0 => some x
  | times + 1 => if x.isZero then some x else (x.div? power).bind (shrinkByTen power · times)

/-- `x * 10 ^ exponent`, rounded after each factor. -/
def scaleByTen (x : Binary64) (exponent : Int) : Option Binary64 :=
  let distance := exponent.natAbs
  if x.isZero then some x
  else if 0 ≤ exponent then
    if distance ≤ greatestPower then (powerOfTen? distance).bind x.mul? else none
  else do
    let times := (distance - 1) / greatestPower
    let smaller ← shrinkByTen (← powerOfTen? greatestPower) x times
    smaller.div? (← powerOfTen? (distance - times * greatestPower))

namespace JsonNumeral

def real (negative : Bool) (significand : Nat) (exponent : Int) : Except JsonFault JsonNumber :=
  match (Binary64.ofInt? significand).bind (scaleByTen · exponent) with
  | some x => .ok (.real (x.withSign negative))
  | none => .error .numberOutOfRange

/-- A numeral with neither fraction nor exponent is an integer if it fits into 64 bits; negative
zero is none. -/
def value (numeral : JsonNumeral) : Except JsonFault JsonNumber :=
  let whole := Significand.ofWhole numeral.whole
  if numeral.fraction.isEmpty && numeral.exponent.isNone && whole.dropped == 0 then
    if !numeral.negative then .ok (.integer whole.kept)
    else if 0 < whole.kept ∧ whole.kept ≤ 0x8000000000000000 then
      .ok (.integer (-(whole.kept : Int)))
    else real true whole.kept 0
  else
    let (kept, places) := Significand.appendFraction whole.kept numeral.fraction
    real numeral.negative kept ((whole.dropped : Int) - places + numeral.exponent.getD 0)

end JsonNumeral

end CheckedTypes
