import CheckedTypes.SplitText

namespace CheckedTypes

structure CodeRange where
  first : Nat
  last : Nat
deriving DecidableEq

def hexDigitValue (c : Char) : Nat :=
  if c.isDigit then c.toNat - '0'.toNat else c.toNat - 'a'.toNat + 10

def natOfHex (digits : List Char) : Nat :=
  digits.foldl (fun n c => n * 16 + hexDigitValue c) 0

def tableWords (lines : List String) : List (List Char) :=
  lines.flatMap fun line => splitOn ' ' line.toList

/-- A range of a table: `41-5a` or, for one code point, `aa`. -/
def decodeRange (word : List Char) : CodeRange :=
  match splitOn '-' word with
  | [first, last] => ⟨natOfHex first, natOfHex last⟩
  | _ => ⟨natOfHex word, natOfHex word⟩

def decodeRanges (lines : List String) : List CodeRange :=
  (tableWords lines).map decodeRange

/-- A table of starts, each with a label that begins with a capital letter. -/
def decodeRuns (lines : List String) : List (Nat × String) :=
  (tableWords lines).map fun word =>
    (natOfHex (word.takeWhile (fun c => !c.isUpper)),
      String.ofList (word.dropWhile (fun c => !c.isUpper)))

def lastCodePoint : Nat := 0x10ffff

/-- The ranges of a table of starts whose label satisfies a condition; each run goes on to the start
of the next. -/
def rangesOfRuns (condition : String → Bool) : List (Nat × String) → List CodeRange
  | [] => []
  | [(start, label)] => if condition label then [⟨start, lastCodePoint⟩] else []
  | (start, label) :: (next, label') :: rest =>
    if condition label then
      ⟨start, next - 1⟩ :: rangesOfRuns condition ((next, label') :: rest)
    else rangesOfRuns condition ((next, label') :: rest)

end CheckedTypes
