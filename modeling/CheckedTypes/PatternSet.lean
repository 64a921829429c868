import CheckedTypes.PatternScan

namespace CheckedTypes

/-- A set in a pattern and how deep its brackets and operations are nested. -/
structure PatternSet where
  chars : CharSet
  height : Nat := 0

namespace PatternSet

def ofItems : List PatternSet → PatternSet
  | [] => ⟨.empty, 0⟩
  | [item] => item
  | items => ⟨.unionAll (items.map chars), (items.map height).foldl max 0 + 1⟩

end PatternSet

inductive SetOperation where
  | intersection
  | difference
  | symmetricDifference

namespace SetOperation

def apply (operation : SetOperation) (left right : CharSet) : CharSet :=
  match operation with
  | intersection => .intersection left right
  | difference => .difference left right
  | symmetricDifference => .symmetricDifference left right

end SetOperation

/-- The part of a set before an operation that still needs its right side. -/
structure PendingOperation where
  left : PatternSet
  operation : SetOperation

/-- Operations bind to the left. -/
def PatternSet.finish (flags : PatternFlags) (pending : Option PendingOperation)
    (right : PatternSet) : PatternSet :=
  match pending with
  | none => right
  | some ⟨left, operation⟩ =>
    ⟨operation.apply (flags.fold left.chars) (flags.fold right.chars),
      max left.height right.height + 1⟩

def asciiClasses : List (String × CharSet) :=
  [("alnum", .ofBounds [('0', '9'), ('A', 'Z'), ('a', 'z')]),
   ("alpha", .ofBounds [('A', 'Z'), ('a', 'z')]),
   ("ascii", .ascii),
   ("blank", .ofBounds [('\t', '\t'), (' ', ' ')]),
   ("cntrl", .ofBounds [('\x00', '\x1f'), ('\x7f', '\x7f')]),
   ("digit", .range '0' '9'),
   ("graph", .range '!' '~'),
   ("lower", .range 'a' 'z'),
   ("print", .range ' ' '~'),
   ("punct", .ofBounds [('!', '/'), (':', '@'), ('[', '\x60'), ('\x7b', '~')]),
   ("space", .ofBounds [('\t', '\r'), (' ', ' ')]),
   ("upper", .range 'A' 'Z'),
   ("word", asciiWordChars),
   ("xdigit", .ofBounds [('0', '9'), ('A', 'F'), ('a', 'f')])]

def asciiClass? (chars : List Char) : Option (CharSet × Bool × List Char) :=
  match chars with
  | '[' :: ':' :: rest =>
    let (negated, rest) := match rest with
      | '^' :: rest => (true, rest)
      | _ => (false, rest)
    let name := rest.takeWhile (· != ':')
    match rest.dropWhile (· != ':') with
    | ':' :: ']' :: rest =>
      (asciiClasses.lookup (String.ofList name)).map fun chars => (chars, negated, rest)
    | _ => none
  | _ => none

namespace PatternReader

def readSetItem : PatternReader PatternAtom := do
  let c ← next
  if c = '\\' then readEscape else return .char c

def setOfAtom : PatternAtom → PatternReader CharSet
  | .char c => do
    let flags := (← get).flags
    require (flags.unicode || c.toNat < 0x80)
    return .single c
  | .set chars => return chars
  | .place _ => refuse

def charOfAtom : PatternAtom → PatternReader Char
  | .char c => return c
  | _ => refuse

def readSetRange : PatternReader CharSet := do
  let first ← readSetItem
  skipIgnored
  let c ← peek
  let after ← peekBehindHyphen?
  if c != '-' || after == some ']' || after == some '-' then setOfAtom first
  else
    bumpAndSkip
    let last ← readSetItem
    let first ← charOfAtom first
    let last ← charOfAtom last
    let flags := (← get).flags
    require (first ≤ last && (flags.unicode || last.toNat < 0x80))
    return .range first last

def readOperation? : PatternReader (Option SetOperation) := do
  if (← accept "&&") then return some .intersection
  else if (← accept "--") then return some .difference
  else if (← accept "~~") then return some .symmetricDifference
  else return none

mutual
/-- A set of which the opening bracket is read. Hyphens at its start stand for themselves, and so
does a closing bracket. -/
def readSet : Nat → PatternReader PatternSet
  | 0 => refuse
  | fuel + 1 => do
    skipIgnored
    let negated := (← peek) == '^'
    if negated then bumpAndSkip
    let hyphens ← readWhile (· == '-')
    let bracket := hyphens.isEmpty && (← peek) == ']'
    if bracket then bumpAndSkip
    let start := if bracket then [']'] else hyphens
    let body ← readSetItems fuel none (start.map fun c => ⟨.single c, 0⟩)
    let flags := (← get).flags
    let chars := flags.fold body.chars
    return ⟨← if negated then flags.negate? chars else pure chars, body.height + 1⟩
/-- The items of a set up to its closing bracket; those read so far stand in reverse. -/
def readSetItems : Nat → Option PendingOperation → List PatternSet → PatternReader PatternSet
  | 0, _, _ => refuse
  | fuel + 1, pending, items => do
    skipIgnored
    let flags := (← get).flags
    let c ← peek
    if c = ']' then
      bump
      return PatternSet.finish flags pending (.ofItems items)
    else if c = '[' then
      match asciiClass? (← get).rest with
      | some (chars, negated, rest) =>
        modify fun scan => { scan with rest }
        let chars := flags.fold chars
        let chars ← if negated then flags.negate? chars else pure chars
        readSetItems fuel pending (⟨chars, 0⟩ :: items)
      | none =>
        bump
        let inner ← readSet fuel
        readSetItems fuel pending (inner :: items)
    else
      match ← readOperation? with
      | some operation =>
        let left := PatternSet.finish flags pending (.ofItems items)
        readSetItems fuel (some ⟨left, operation⟩) []
      | none =>
        let chars ← readSetRange
        readSetItems fuel pending (⟨chars, 0⟩ :: items)
end

end PatternReader

end CheckedTypes
