import CheckedTypes.CaseFolding
import CheckedTypes.PropertyName
import CheckedTypes.Regex

namespace CheckedTypes

structure PatternFlags where
  caseless : Bool := false
  multiLine : Bool := false
  dotAll : Bool := false
  swapGreed : Bool := false
  unicode : Bool := true
  carriageReturns : Bool := false
  ignoreBlanks : Bool := false

structure PatternScan where
  rest : List Char
  flags : PatternFlags := {}
  groups : Nat := 0
  groupNames : List (List Char) := []

abbrev PatternReader := StateT PatternScan Option

namespace PatternReader

def peek? : PatternReader (Option Char) := do
  return (← get).rest.head?

def bump : PatternReader Unit :=
  modify fun scan => { scan with rest := scan.rest.tail }

def peek : PatternReader Char := do
  (← get).rest.head?

def next : PatternReader Char := do
  let c ← peek
  bump
  return c

def refuse {α : Type} : PatternReader α :=
  failure

def require (condition : Bool) : PatternReader Unit :=
  if condition then pure () else refuse

/-- The characters from the next one on for which a test holds, the last one first, and what follows
them; `taken` are those before. Blanks and comments may stand between them if they do not count. -/
def takeCounted (test : Char → Bool) (ignoreBlanks : Bool) (taken : List Char) :
    (inComment : Bool) → List Char → List Char × List Char
  | _, [] => (taken, [])
  | true, c :: rest => takeCounted test ignoreBlanks taken (c != '\n') rest
  | false, c :: rest =>
    if ignoreBlanks && isWhiteSpace c then takeCounted test ignoreBlanks taken false rest
    else if ignoreBlanks && c == '#' then takeCounted test ignoreBlanks taken true rest
    else if test c then takeCounted test ignoreBlanks (c :: taken) false rest
    else (taken, c :: rest)

def readWhile (test : Char → Bool) : PatternReader (List Char) := do
  let scan ← get
  let (taken, rest) := takeCounted test scan.flags.ignoreBlanks [] false scan.rest
  set { scan with rest }
  return taken.reverse

def skipIgnored : PatternReader Unit := do
  let _ ← readWhile fun _ => false

def bumpAndSkip : PatternReader Unit := do
  bump
  skipIgnored

/-- What stands behind a hyphen and says whether it makes a range. Where blanks do not count, they
are passed over, and so is one sharp sign, but not the comment behind it. -/
def peekBehindHyphen? : PatternReader (Option Char) := do
  let scan ← get
  let rest := scan.rest.tail
  if !scan.flags.ignoreBlanks then return rest.head?
  let counted := match rest.dropWhile isWhiteSpace with
    | '#' :: comment => comment.dropWhile isWhiteSpace
    | counted => counted
  return counted.head? <|> rest.head?

def accept (text : String) : PatternReader Bool := do
  let scan ← get
  if text.toList.isPrefixOf scan.rest then
    set { scan with rest := scan.rest.drop text.length }
    return true
  else return false

end PatternReader

/-- A part of a pattern that stands for one character, for a set of them or for a place. -/
inductive PatternAtom where
  | char (c : Char)
  | set (chars : CharSet)
  | place (look : Look)

inductive PatternClass where
  | digit
  | space
  | word

namespace PatternClass

def ofLetter? (c : Char) : Option PatternClass :=
  if c = 'd' then some digit
  else if c = 's' then some space
  else if c = 'w' then some word
  else none

def asciiSet : PatternClass → CharSet
  | digit => .range '0' '9'
  | space => .ofBounds [('\t', '\r'), (' ', ' ')]
  | word => asciiWordChars

def unicodeSet : PatternClass → CharSet
  | digit => decimalDigits
  | space => whiteSpace
  | word => wordChars

def chars (flags : PatternFlags) (c : PatternClass) : CharSet :=
  if flags.unicode then c.unicodeSet else c.asciiSet

end PatternClass

namespace PatternFlags

def fold (flags : PatternFlags) (chars : CharSet) : CharSet :=
  if !flags.caseless then chars
  else if flags.unicode then chars.caseless
  else .intersection .ascii chars.caseless

/-- What is not in a set; it is no text in ASCII alone. -/
def negate? (flags : PatternFlags) (chars : CharSet) : Option CharSet :=
  if flags.unicode then some chars.complement else none

def dot? (flags : PatternFlags) : Option CharSet :=
  if flags.dotAll then flags.negate? .empty
  else if flags.carriageReturns then flags.negate? (.ofBounds [('\n', '\n'), ('\r', '\r')])
  else flags.negate? (.single '\n')

end PatternFlags

namespace PatternReader

def isHexDigit (c : Char) : Bool :=
  c.isDigit || ('a' ≤ c && c ≤ 'f') || ('A' ≤ c && c ≤ 'F')

/-- The digits of a number that stands between braces; blanks around it do not count. -/
def readCount : PatternReader Nat := do
  modify fun scan => { scan with rest := scan.rest.dropWhile isWhiteSpace }
  let digits ← readWhile Char.isDigit
  modify fun scan => { scan with rest := scan.rest.dropWhile isWhiteSpace }
  skipIgnored
  require (!digits.isEmpty)
  let count := digits.foldl (fun n c => n * 10 + (c.toNat - '0'.toNat)) 0
  require (count < 0x100000000)
  return count

def charOfHex? (digits : List Char) : Option Char :=
  if digits.isEmpty || !digits.all isHexDigit then none
  else
    let code := natOfHex (digits.map Char.toLower)
    if code.isValidChar then some (Char.ofNat code) else none

def readSpaced : Nat → PatternReader (List Char)
  | 0 => return []
  | count + 1 => do
    let c ← next
    skipIgnored
    return c :: (← readSpaced count)

def readBraces : PatternReader (List Char) := do
  bump
  let chars ← readWhile (· != '\x7d')
  require ((← next) = '\x7d')
  return chars

def readCodePoint (digits : Nat) : PatternReader (Char × Bool) := do
  bumpAndSkip
  if (← peek) = '\x7b' then
    let digits ← readBraces
    skipIgnored
    return (← charOfHex? digits, false)
  else
    return (← charOfHex? (← readSpaced digits), true)

/-- A property between braces: a name, or a name and a value. The signs between them all mean the
same, even those that say that the value is another one. -/
def propertyOfBraces? (chars : List Char) : Option CharSet :=
  match splitAtUnequal [] chars with
  | some (name, value) => CharSet.ofNameAndValue? name value
  | none =>
    let separator := if chars.contains ':' then ':' else '='
    if chars.contains separator then
      let name := chars.takeWhile (· != separator)
      let value := (chars.dropWhile (· != separator)).tail
      CharSet.ofNameAndValue? name value
    else CharSet.ofName? chars
where
  splitAtUnequal (name : List Char) : List Char → Option (List Char × List Char)
    | '!' :: '=' :: value => some (name.reverse, value)
    | c :: rest => splitAtUnequal (c :: name) rest
    | [] => none

def readProperty (negated : Bool) : PatternReader CharSet := do
  let flags := (← get).flags
  bumpAndSkip
  let chars ←
    if (← peek) = '\x7b' then propertyOfBraces? (← readBraces)
    else do
      let c ← next
      skipIgnored
      CharSet.ofName? [c]
  require flags.unicode
  let chars := flags.fold chars
  return if negated then chars.complement else chars

/-- The place that `\b` stands for. What follows in braces may name a kind of boundary; it does not
where it does not begin with a letter or a hyphen. -/
def readBoundary : PatternReader Look := do
  let before ← get
  let unicode := before.flags.unicode
  if before.rest.head? != some '\x7b' then return .wordBoundary unicode
  bump
  let name ← readWhile fun c => c.isAlpha || c == '-'
  let c ← peek
  if name.isEmpty then
    set before
    return .wordBoundary unicode
  require (c = '\x7d')
  bump
  match String.ofList name with
  | "start" => return .wordStart unicode
  | "end" => return .wordEnd unicode
  | "start-half" => return .wordStartHalf unicode
  | "end-half" => return .wordEndHalf unicode
  | _ => refuse

def controlChar? (c : Char) : Option Char :=
  if c = 'a' then some '\x07'
  else if c = 'f' then some '\x0c'
  else if c = 't' then some '\t'
  else if c = 'n' then some '\n'
  else if c = 'r' then some '\r'
  else if c = 'v' then some '\x0b'
  else none

/-- A character given by two digits is a byte where text is ASCII, and beyond ASCII that is no text.
-/
def charOfByte? (flags : PatternFlags) : Char × Bool → Option PatternAtom
  | (c, fixed) => if fixed && !flags.unicode && 0x80 ≤ c.toNat then none else some (.char c)

def readEscape : PatternReader PatternAtom := do
  let flags := (← get).flags
  let c ← peek
  if c.isDigit then refuse
  else if c = 'x' then charOfByte? flags (← readCodePoint 2)
  else if c = 'u' then return .char (← readCodePoint 4).1
  else if c = 'U' then return .char (← readCodePoint 8).1
  else if c = 'p' then return .set (← readProperty false)
  else if c = 'P' then return .set (← readProperty true)
  else
    bump
    match PatternClass.ofLetter? c.toLower with
    | some kind =>
      let chars := kind.chars flags
      if c.isUpper then return .set (← flags.negate? chars) else return .set chars
    | none =>
      match controlChar? c with
      | some char => return .char char
      | none =>
        if c = 'A' then return .place .startText
        else if c = 'z' then return .place .endText
        else if c = 'b' then return .place (← readBoundary)
        else if c = 'B' then return .place (.notWordBoundary flags.unicode)
        else if c = '<' then return .place (.wordStart flags.unicode)
        else if c = '>' then return .place (.wordEnd flags.unicode)
        else
          require (c.toNat < 0x80 && !c.isAlpha)
          return .char c

end PatternReader

end CheckedTypes
