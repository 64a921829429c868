import CheckedTypes.CodeRange

namespace CheckedTypes

/-- A set of characters: ranges of code points in ascending order that do not touch. -/
structure CharSet where
  ranges : List CodeRange
deriving DecidableEq

namespace CharSet

def empty : CharSet := ⟨[]⟩

def anyContains (n : Nat) : List CodeRange → Bool
  | [] => false
  | range :: rest => range.first ≤ n && (n ≤ range.last || anyContains n rest)

def contains (set : CharSet) (c : Char) : Bool :=
  anyContains c.toNat set.ranges

/-- The parts of a range before and behind the surrogates, which are no characters. -/
def withoutSurrogates (range : CodeRange) : List CodeRange :=
  [⟨range.first, min range.last 0xd7ff⟩, ⟨max range.first 0xe000, range.last⟩].filter fun part =>
    part.first ≤ part.last

def joinTouching (current : CodeRange) : List CodeRange → List CodeRange
  | [] => [current]
  | next :: rest =>
    if next.first ≤ current.last + 1 then
      joinTouching ⟨current.first, max current.last next.last⟩ rest
    else current :: joinTouching next rest

def ofRanges (ranges : List CodeRange) : CharSet :=
  match (ranges.flatMap withoutSurrogates).mergeSort (fun a b => a.first ≤ b.first) with
  | [] => empty
  | first :: rest => ⟨joinTouching first rest⟩

def ofTable (lines : List String) : CharSet :=
  ofRanges (decodeRanges lines)

def range (first last : Char) : CharSet :=
  ofRanges [⟨first.toNat, last.toNat⟩]

def single (c : Char) : CharSet :=
  range c c

def ofBounds (bounds : List (Char × Char)) : CharSet :=
  ofRanges (bounds.map fun (first, last) => ⟨first.toNat, last.toNat⟩)

def ascii : CharSet :=
  range '\x00' '\x7f'

/-- What lies from `start` on between ascending ranges. -/
def gaps (start : Nat) : List CodeRange → List CodeRange
  | [] => if start ≤ lastCodePoint then [⟨start, lastCodePoint⟩] else []
  | range :: rest =>
    if start < range.first then ⟨start, range.first - 1⟩ :: gaps (range.last + 1) rest
    else gaps (range.last + 1) rest

def complement (set : CharSet) : CharSet :=
  ofRanges (gaps 0 set.ranges)

def all : CharSet :=
  complement empty

def unionAll (sets : List CharSet) : CharSet :=
  ofRanges (sets.flatMap ranges)

def union (left right : CharSet) : CharSet :=
  unionAll [left, right]

def intersection (left right : CharSet) : CharSet :=
  complement (union left.complement right.complement)

def difference (left right : CharSet) : CharSet :=
  complement (union left.complement right)

def symmetricDifference (left right : CharSet) : CharSet :=
  difference (union left right) (intersection left right)

def isAscii (set : CharSet) : Bool :=
  set.ranges.all fun range => range.last < 0x80

def single? (set : CharSet) : Option Char :=
  match set.ranges with
  | [range] => if range.first = range.last then some (Char.ofNat range.first) else none
  | _ => none

end CharSet

end CheckedTypes
