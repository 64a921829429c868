import CheckedTypes.JsonValue

namespace CheckedTypes

inductive JsonFault where
  | endOfValue
  | endOfString
  | endOfList
  | endOfObject
  | expectedValue
  | expectedWord
  | invalidNumber
  | numberOutOfRange
  | unknownEscape
  | invalidHexEscape
  | unpairedSurrogate
  | misplacedSurrogate
  | controlCharacter
  | malformedCharacter
  | keyNotString
  | trailingComma
  | expectedColon
  | expectedListEnd
  | expectedObjectEnd
  | trailingCharacters
  | tooDeep
deriving DecidableEq

def JsonFault.message : JsonFault → String
  | endOfValue => "EOF while parsing a value"
  | endOfString => "EOF while parsing a string"
  | endOfList => "EOF while parsing a list"
  | endOfObject => "EOF while parsing an object"
  | expectedValue => "expected value"
  | expectedWord => "expected ident"
  | invalidNumber => "invalid number"
  | numberOutOfRange => "number out of range"
  | unknownEscape => "invalid escape"
  | invalidHexEscape => "invalid escape"
  | unpairedSurrogate => "unexpected end of hex escape"
  | misplacedSurrogate => "lone leading surrogate in hex escape"
  | controlCharacter => "control character (\\u0000-\\u001F) found while parsing a string"
  | malformedCharacter => "invalid unicode code point"
  | keyNotString => "key must be a string"
  | trailingComma => "trailing comma"
  | expectedColon => "expected `:`"
  | expectedListEnd => "expected `,` or `]`"
  | expectedObjectEnd => "expected `,` or `\x7d`"
  | trailingCharacters => "trailing characters"
  | tooDeep => "recursion limit exceeded"

/-- Where the text stops being JSON, as seen by who reads the value there and by who skips it. -/
structure JsonBreak where
  read : JsonFault
  skipped : JsonFault

def JsonBreak.both (fault : JsonFault) : JsonBreak :=
  ⟨fault, fault⟩

/-- How a list of a text ends: `cut` when the text stopped inside its last element. -/
inductive ListEnding where
  | closed
  | cut
  | broken (stop : JsonBreak)

/-- How an object of a text ends: a break after a key leaves that key without a value. -/
inductive ObjectEnding where
  | closed
  | cut
  | brokenKey (stop : JsonBreak)
  | brokenColon (key : Except JsonFault String) (stop : JsonBreak)

/-- A JSON text as it is written, up to the point where it stops being JSON. A string or a number
that cannot be held is a fault only for who reads it, and repeated members are all there. -/
inductive JsonSource where
  | null
  | boolean (b : Bool)
  | number (n : Except JsonFault JsonNumber)
  | string (s : Except JsonFault String)
  | list (elements : List JsonSource) (ending : ListEnding)
  | object (members : List (Except JsonFault String × JsonSource)) (ending : ObjectEnding)
  | broken (stop : JsonBreak)

namespace JsonSource

mutual
def ofValue : Json → JsonSource
  | .null => .null
  | .boolean b => .boolean b
  | .number n => .number (.ok n)
  | .string s => .string (.ok s)
  | .list elements => .list (ofElements elements) .closed
  | .object members => .object (ofMembers members) .closed
def ofElements : List Json → List JsonSource
  | [] => []
  | value :: rest => ofValue value :: ofElements rest
def ofMembers : List (String × Json) → List (Except JsonFault String × JsonSource)
  | [] => []
  | (name, value) :: rest => (.ok name, ofValue value) :: ofMembers rest
end

end JsonSource

/-- One step from a value to a part of it; `unknown` is a member whose name could not be read. -/
inductive PathSegment where
  | member (name : String)
  | element (index : Nat)
  | unknown
deriving DecidableEq

/-- How deeply a reader may still nest lists and objects; `none` is without limit. -/
abbrev DepthBudget := Option Nat

def DepthBudget.ofText : DepthBudget := some 127

def DepthBudget.enter? : DepthBudget → Option DepthBudget
  | none => some none
  | some 0 => none
  | some (n + 1) => some (some n)

structure LocatedFault where
  path : List PathSegment
  fault : JsonFault

def LocatedFault.here (fault : JsonFault) : LocatedFault :=
  ⟨[], fault⟩

def LocatedFault.under (segment : PathSegment) (located : LocatedFault) : LocatedFault :=
  { located with path := segment :: located.path }

namespace JsonSource

mutual
/-- The value of a text, or the first fault in reading order. Of members of one name the first
gives the place and the last the value. -/
def value (budget : DepthBudget) : JsonSource → Except LocatedFault Json
  | .null => .ok .null
  | .boolean b => .ok (.boolean b)
  | .number (.ok n) => .ok (.number n)
  | .number (.error fault) => .error (.here fault)
  | .string (.ok s) => .ok (.string s)
  | .string (.error fault) => .error (.here fault)
  | .broken stop => .error (.here stop.read)
  | .list elements ending =>
    match budget.enter? with
    | none => .error (.here .tooDeep)
    | some inner => (elementValues inner 0 elements ending).map .list
  | .object members ending =>
    match budget.enter? with
    | none => .error (.here .tooDeep)
    | some inner => (memberValues inner [] members ending).map .object
def elementValues (budget : DepthBudget) (index : Nat) :
    List JsonSource → ListEnding → Except LocatedFault (List Json)
  | [], .broken stop => .error (.here stop.read)
  | [], _ => .ok []
  | source :: rest, ending =>
    match value budget source with
    | .error located => .error (located.under (.element index))
    | .ok first => (elementValues budget (index + 1) rest ending).map (first :: ·)
def memberValues (budget : DepthBudget) (before : List (String × Json)) :
    List (Except JsonFault String × JsonSource) → ObjectEnding →
      Except LocatedFault (List (String × Json))
  | [], .brokenKey stop => .error ⟨[.unknown], stop.read⟩
  | [], .brokenColon (.error fault) _ => .error ⟨[.unknown], fault⟩
  | [], .brokenColon (.ok _) stop => .error (.here stop.read)
  | [], _ => .ok before
  | (.error fault, _) :: _, _ => .error ⟨[.unknown], fault⟩
  | (.ok name, source) :: rest, ending =>
    match value budget source with
    | .error located => .error (located.under (.member name))
    | .ok member => memberValues budget (insertMember name member before) rest ending
end

mutual
/-- The first fault for a reader who skips the value. -/
def skipFault? : JsonSource → Option JsonFault
  | .list elements ending =>
    match skipElements? elements with
    | some fault => some fault
    | none =>
      match ending with
      | .broken stop => some stop.skipped
      | _ => none
  | .object members ending =>
    match skipMembers? members with
    | some fault => some fault
    | none =>
      match ending with
      | .brokenKey stop => some stop.skipped
      | .brokenColon _ stop => some stop.skipped
      | _ => none
  | .broken stop => some stop.skipped
  | _ => none
def skipElements? : List JsonSource → Option JsonFault
  | [] => none
  | source :: rest =>
    match skipFault? source with
    | some fault => some fault
    | none => skipElements? rest
def skipMembers? : List (Except JsonFault String × JsonSource) → Option JsonFault
  | [] => none
  | (_, source) :: rest =>
    match skipFault? source with
    | some fault => some fault
    | none => skipMembers? rest
end

end JsonSource

end CheckedTypes
