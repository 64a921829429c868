import CheckedTypes.JsonSource

namespace CheckedTypes

/-- A character of a text, or a byte that belongs to none. -/
abbrev Symbol := Option Char

/-- The characters of encoded text; each byte that starts none is a symbol of its own. -/
def symbolsFrom (bytes : ByteArray) (i : Nat) : List Symbol :=
  if _h : i < bytes.size then
    match bytes.utf8DecodeChar? i with
    | some c =>
      have := c.utf8Size_pos
      some c :: symbolsFrom bytes (i + c.utf8Size)
    | none => none :: symbolsFrom bytes (i + 1)
  else []
termination_by bytes.size - i

def symbolsOfBytes (bytes : ByteArray) : List Symbol :=
  symbolsFrom bytes 0

def symbolsOfText (text : String) : List Symbol :=
  text.toList.map some

def byteCount (symbols : List Symbol) : Nat :=
  symbols.foldr (fun s count => (s.map Char.utf8Size).getD 1 + count) 0

def skipBlanks : List Symbol → List Symbol
  | some c :: rest =>
    if c = ' ' ∨ c = '\n' ∨ c = '\t' ∨ c = '\r' then skipBlanks rest else some c :: rest
  | symbols => symbols

theorem length_skipBlanks_le (symbols : List Symbol) :
    (skipBlanks symbols).length ≤ symbols.length := by
  fun_induction skipBlanks symbols with
  | case1 c rest _ ih => exact Nat.le_succ_of_le ih
  | case2 => exact Nat.le_refl _
  | case3 => exact Nat.le_refl _

def hexValue? (c : Char) : Option Nat :=
  if '0' ≤ c ∧ c ≤ '9' then some (c.toNat - '0'.toNat)
  else if 'a' ≤ c ∧ c ≤ 'f' then some (c.toNat - 'a'.toNat + 10)
  else if 'A' ≤ c ∧ c ≤ 'F' then some (c.toNat - 'A'.toNat + 10)
  else none

def escapedChar? (c : Char) : Option Char :=
  if c = '"' ∨ c = '\\' ∨ c = '/' then some c
  else if c = 'b' then some '\x08'
  else if c = 'f' then some '\x0c'
  else if c = 'n' then some '\n'
  else if c = 'r' then some '\r'
  else if c = 't' then some '\t'
  else none

def hexUnit? : List Symbol → Option Nat
  | [some a, some b, some c, some d] => do
    let high := (← hexValue? a) * 16 + (← hexValue? b)
    return (high * 16 + (← hexValue? c)) * 16 + (← hexValue? d)
  | _ => none

/-- A string is written as characters and as sixteen-bit units. -/
inductive StringPiece where
  | char (c : Char)
  | unit (code : Nat)
  | malformed

def scanString : List Symbol → List StringPiece × Except JsonFault (List Symbol)
  | [] => ([], .error .endOfString)
  | none :: rest =>
    let (pieces, ending) := scanString rest
    (.malformed :: pieces, ending)
  | some c :: rest =>
    if c = '"' then ([], .ok rest)
    else if c = '\\' then
      match rest with
      | [] => ([], .error .endOfString)
      | some 'u' :: a :: b :: c :: d :: rest =>
        match hexUnit? [a, b, c, d] with
        | some code =>
          let (pieces, ending) := scanString rest
          (.unit code :: pieces, ending)
        | none => ([], .error .invalidHexEscape)
      | some 'u' :: rest =>
        ([], .error (if byteCount rest < 4 then .endOfString else .invalidHexEscape))
      | some e :: rest =>
        match escapedChar? e with
        | some char =>
          let (pieces, ending) := scanString rest
          (.char char :: pieces, ending)
        | none => ([], .error .unknownEscape)
      | none :: _ => ([], .error .unknownEscape)
    else if c.toNat < 0x20 then ([], .error .controlCharacter)
    else
      let (pieces, ending) := scanString rest
      (.char c :: pieces, ending)

theorem length_scanString_lt {symbols rest : List Symbol}
    (h : (scanString symbols).2 = .ok rest) : rest.length < symbols.length := by
  fun_induction scanString symbols <;> simp_all <;> grind

def isHighSurrogate (code : Nat) : Bool :=
  0xD800 ≤ code && code ≤ 0xDBFF

def isLowSurrogate (code : Nat) : Bool :=
  0xDC00 ≤ code && code ≤ 0xDFFF

/-- The characters of a string; a high surrogate needs a low one right after it, and `stop` is the
fault that ends an unfinished string. -/
def decodePieces (stop : Option JsonFault) : List StringPiece → Except JsonFault (List Char)
  | [] => .ok []
  | .char c :: rest => (decodePieces stop rest).map (c :: ·)
  | .malformed :: rest => decodePieces stop rest
  | .unit high :: rest =>
    if isLowSurrogate high then .error .misplacedSurrogate
    else if isHighSurrogate high then
      match rest with
      | .unit low :: rest =>
        if isLowSurrogate low then
          let c := Char.ofNat (0x10000 + (high - 0xD800) * 0x400 + (low - 0xDC00))
          (decodePieces stop rest).map (c :: ·)
        else .error .misplacedSurrogate
      | [] =>
        match stop with
        | some .endOfString => .error .endOfString
        | some .invalidHexEscape => .error .invalidHexEscape
        | _ => .error .unpairedSurrogate
      | _ => .error .unpairedSurrogate
    else (decodePieces stop rest).map (Char.ofNat high :: ·)

def StringPiece.isMalformed : StringPiece → Bool
  | .malformed => true
  | _ => false

def stringOfPieces (pieces : List StringPiece) : Except JsonFault String :=
  match decodePieces none pieces with
  | .error fault => .error fault
  | .ok chars =>
    if pieces.any StringPiece.isMalformed then .error .malformedCharacter
    else .ok (String.ofList chars)

/-- The fault that reading an unfinished string meets. -/
def faultOfPieces (pieces : List StringPiece) (stop : JsonFault) : JsonFault :=
  match decodePieces (some stop) pieces with
  | .error fault => fault
  | .ok _ => stop

end CheckedTypes
