import CheckedTypes.PatternSet
import CheckedTypes.RegexMachine

namespace CheckedTypes

structure PatternPart where
  regex : Regex
  height : Nat := 0

/-- The last thing read, which a repetition applies to. -/
inductive PatternItem where
  | part (part : PatternPart)
  | flags

namespace PatternItem

def repeatable? : PatternItem → Option PatternPart
  | .part found => some found
  | .flags => none

/-- Flags stand for the empty text. -/
def toPart : PatternItem → PatternPart
  | .part found => found
  | .flags => ⟨.empty, 0⟩

end PatternItem

namespace PatternPart

def ofParts (join : List Regex → Regex) : List PatternPart → PatternPart
  | [] => ⟨.empty, 0⟩
  | [part] => part
  | parts => ⟨join (parts.map regex), (parts.map height).foldl max 0 + 1⟩

def concat (items : List PatternItem) : PatternPart :=
  ofParts .ofConcat (items.map PatternItem.toPart)

def alternate (parts : List PatternPart) : PatternPart :=
  ofParts .ofAlternate parts

end PatternPart

structure FlagChange where
  letter : Char
  on : Bool

namespace PatternFlags

def change (flags : PatternFlags) (c : FlagChange) : PatternFlags :=
  match c.letter with
  | 'i' => { flags with caseless := c.on }
  | 'm' => { flags with multiLine := c.on }
  | 's' => { flags with dotAll := c.on }
  | 'U' => { flags with swapGreed := c.on }
  | 'u' => { flags with unicode := c.on }
  | 'R' => { flags with carriageReturns := c.on }
  | 'x' => { flags with ignoreBlanks := c.on }
  | _ => flags

/-- What a character outside of sets stands for. In ASCII alone, other characters have no case. -/
def char (flags : PatternFlags) (c : Char) : Regex :=
  if flags.unicode || c.toNat < 0x80 then .ofSet (flags.fold (.single c)) flags.unicode
  else .literal [c]

end PatternFlags

/-- How often something is repeated, and whether it is repeated as seldom as possible. -/
structure RepetitionMark where
  least : Nat
  most : Option Nat
  reluctant : Bool

def RepetitionMark.apply (mark : RepetitionMark) (flags : PatternFlags) (part : PatternPart) :
    PatternPart :=
  ⟨.repeated mark.least mark.most (mark.reluctant == flags.swapGreed) part.regex, part.height + 1⟩

namespace PatternReader

/-- More letters and hyphens than flags have, none of them twice. -/
def flagFuel : Nat := 10

/-- The flags up to a colon or a closing parenthesis: no letter twice, and at most one hyphen, which
does not come last. -/
def readFlags : Nat → (on : Bool) → (seen : List Char) → PatternReader (List FlagChange)
  | 0, _, _ => refuse
  | fuel + 1, on, seen => do
    let c ← peek
    if c = ':' || c = ')' then
      require (seen.head? != some '-')
      return []
    else
      bump
      require (!seen.contains c)
      if c = '-' then readFlags fuel false (c :: seen)
      else
        require ("imsUuRx".toList.contains c)
        return ⟨c, on⟩ :: (← readFlags fuel on (c :: seen))

def isGroupName : List Char → Bool
  | [] => false
  | first :: rest => nameStart.contains first && rest.all nameRest.contains

def readGroupName : PatternReader Unit := do
  let scan ← get
  let name := scan.rest.takeWhile (· != '>')
  require (isGroupName name && !scan.groupNames.contains name)
  set { scan with rest := scan.rest.drop name.length, groupNames := name :: scan.groupNames }
  require ((← next) = '>')

def countGroup : PatternReader Nat := do
  modify fun scan => { scan with groups := scan.groups + 1 }
  return (← get).groups

def readCounts : PatternReader (Nat × Option Nat) := do
  bumpAndSkip
  let least ← readCount
  let c ← peek
  if c = ',' then
    bumpAndSkip
    if (← peek) = '\x7d' then
      bumpAndSkip
      return (least, none)
    let most ← readCount
    require ((← peek) = '\x7d' && least ≤ most)
    bumpAndSkip
    return (least, some most)
  else
    require (c = '\x7d')
    bumpAndSkip
    return (least, some least)

def readRepetition? : PatternReader (Option RepetitionMark) := do
  match ← peek? with
  | some '*' => bump; mark (0, none)
  | some '+' => bump; mark (1, none)
  | some '?' => bump; mark (0, some 1)
  | some '\x7b' => mark (← readCounts)
  | _ => return none
where
  mark (counts : Nat × Option Nat) : PatternReader (Option RepetitionMark) := do
    return some ⟨counts.1, counts.2, ← accept "?"⟩

def readAtom : PatternReader Regex := do
  let flags := (← get).flags
  let c ← next
  if c = '.' then return .ofSet (← flags.dot?) true
  else if c = '^' then
    return .look (if flags.multiLine then .startLine flags.carriageReturns else .startText)
  else if c = '$' then
    return .look (if flags.multiLine then .endLine flags.carriageReturns else .endText)
  else
    let atom ← if c = '\\' then readEscape else pure (.char c)
    match atom with
    | .char c => return flags.char c
    | .set chars => return .ofSet chars flags.unicode
    | .place look => return .look look

mutual
/-- The alternatives up to a closing parenthesis or the end; `items` are those of the current one,
the last one first. Flags stay as they were set from one alternative to the next. -/
def readAlternatives :
    Nat → (alternatives : List PatternPart) → (items : List PatternItem) → PatternReader PatternPart
  | 0, _, _ => refuse
  | fuel + 1, alternatives, items => do
    skipIgnored
    match ← peek? with
    | none | some ')' =>
      return PatternPart.alternate (PatternPart.concat items.reverse :: alternatives).reverse
    | some '|' =>
      bump
      readAlternatives fuel (PatternPart.concat items.reverse :: alternatives) []
    | some '(' =>
      bump
      let item ← readGroup fuel
      readAlternatives fuel alternatives (item :: items)
    | some '[' =>
      bump
      let chars ← readSet fuel
      let part : PatternPart := ⟨.ofSet chars.chars (← get).flags.unicode, chars.height⟩
      readAlternatives fuel alternatives (.part part :: items)
    | some _ =>
      match ← readRepetition? with
      | some mark =>
        match items with
        | .part body :: items =>
          let part := mark.apply (← get).flags body
          readAlternatives fuel alternatives (.part part :: items)
        | _ => refuse
      | none =>
        let regex ← readAtom
        readAlternatives fuel alternatives (.part ⟨regex, 0⟩ :: items)
def readGroup : Nat → PatternReader PatternItem
  | 0 => refuse
  | fuel + 1 => do
    skipIgnored
    let flags := (← get).flags
    let rest := (← get).rest
    require (["?=", "?!", "?<=", "?<!"].all fun look => !look.toList.isPrefixOf rest)
    if (← accept "?P<") then
      readGroupName
      readGroupBody fuel flags (some (← countGroup))
    else if (← accept "?<") then
      readGroupName
      readGroupBody fuel flags (some (← countGroup))
    else if (← accept "?") then
      let changes ← readFlags flagFuel true []
      modify fun scan => { scan with flags := changes.foldl PatternFlags.change scan.flags }
      if (← next) = ')' then
        require (!changes.isEmpty)
        return .flags
      else readGroupBody fuel flags none
    else readGroupBody fuel flags (some (← countGroup))
/-- What a group holds; behind it, flags are what they were before it. -/
def readGroupBody : Nat → PatternFlags → (number : Option Nat) → PatternReader PatternItem
  | 0, _, _ => refuse
  | fuel + 1, flags, number => do
    let body ← readAlternatives fuel [] []
    require ((← next) = ')')
    modify fun scan => { scan with flags }
    let regex := match number with
      | some n => .group n body.regex
      | none => body.regex
    return .part ⟨regex, body.height + 1⟩
end

end PatternReader

def patternNestingLimit : Nat := 250

/-- The meaning of a pattern, if it has one and is not too large. Every character takes up to three
steps of reading. -/
def Regex.ofText? (pattern : String) : Option Regex := do
  let chars := pattern.toList
  let reader := PatternReader.readAlternatives (3 * chars.length + 3) [] []
  let (part, scan) ← reader.run { rest := chars }
  if scan.rest.isEmpty && part.height ≤ patternNestingLimit && part.regex.fits then
    some part.regex
  else none

end CheckedTypes
