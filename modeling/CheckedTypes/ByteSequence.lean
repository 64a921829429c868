import CheckedTypes.CharSet

namespace CheckedTypes

structure ByteRange where
  first : Nat
  last : Nat
deriving DecidableEq

abbrev ByteSequence := List ByteRange

def continuation : ByteRange :=
  ⟨0x80, 0xbf⟩

namespace ByteSequence

/-- The numbers from `first` to `last`, written with six bits in each of the bytes behind the first
one; `lead` is added to the first byte. A sequence ends where the bytes before would change. -/
def ofNumbers (lead : Nat) : (more first last : Nat) → List ByteSequence
  | 0, first, last => [[⟨lead + first, lead + last⟩]]
  | more + 1, first, last =>
    let unit := Nat.pow 64 (more + 1)
    let low := first / unit
    let high := last / unit
    let inside (digit first last : Nat) : List ByteSequence :=
      (ofNumbers 0x80 more first last).map (⟨lead + digit, lead + digit⟩ :: ·)
    if low = high then inside low (first % unit) (last % unit)
    else
      let startsWhole := first % unit == 0
      let endsWhole := last % unit == unit - 1
      let start := if startsWhole then low else low + 1
      let stop := if endsWhole then high + 1 else high
      (if startsWhole then [] else inside low (first % unit) (unit - 1)) ++
        (if start < stop then
          [⟨lead + start, lead + stop - 1⟩ :: List.replicate (more + 1) continuation]
        else []) ++
        (if endsWhole then [] else inside high 0 (last % unit))

/-- The characters of each encoded length: how many bytes go on with them, what is added to the
first byte, and which they are. -/
def lengths : List (Nat × Nat × CodeRange) :=
  [(0, 0, ⟨0, 0x7f⟩), (1, 0xc0, ⟨0x80, 0x7ff⟩), (2, 0xe0, ⟨0x800, 0xffff⟩),
   (3, 0xf0, ⟨0x10000, lastCodePoint⟩)]

def ofRange (range : CodeRange) : List ByteSequence :=
  lengths.flatMap fun (more, lead, limits) =>
    let first := max range.first limits.first
    let last := min range.last limits.last
    if first ≤ last then ofNumbers lead more first last else []

def ofSet (set : CharSet) : List ByteSequence :=
  set.ranges.flatMap ofRange

/-- Neighbouring sequences that begin alike, by what they begin with. -/
def groupStarts : List ByteSequence → List (ByteRange × List ByteSequence)
  | [] => []
  | [] :: rest => groupStarts rest
  | (start :: tail) :: rest =>
    match groupStarts rest with
    | (next, tails) :: more =>
      if start = next then (start, tail :: tails) :: more
      else (start, [tail]) :: (next, tails) :: more
    | [] => [(start, [tail])]

end ByteSequence

/-- A byte and what may follow it; nothing follows the last byte of a character. -/
inductive ByteTree where
  | node (byte : ByteRange) (next : List ByteTree)

def ByteTree.ofSequences : (depth : Nat) → List ByteSequence → List ByteTree
  | 0, _ => []
  | depth + 1, sequences =>
    (ByteSequence.groupStarts sequences).map fun (byte, tails) =>
      .node byte (ofSequences depth tails)

end CheckedTypes
