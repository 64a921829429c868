import CheckedTypes.CharProperty
import CheckedTypes.Filter

namespace CheckedTypes

inductive FilterToken where
  | name (text : String)
  | field (name : String)
  | string (text : String)
  | number (value : Json)
  | sign (c : Char)

namespace FilterToken

def isNameStart (c : Char) : Bool :=
  c.isAlpha || c == '_'

def isNameChar (c : Char) : Bool :=
  c.isAlphanum || c == '_'

def hexDigit? (c : Char) : Option Nat :=
  if c.isDigit then some (c.toNat - '0'.toNat)
  else if 'a' ≤ c ∧ c ≤ 'f' then some (c.toNat - 'a'.toNat + 10)
  else if 'A' ≤ c ∧ c ≤ 'F' then some (c.toNat - 'A'.toNat + 10)
  else none

def charOfDigits? (a b c d : Char) : Option Char := do
  let high := (← hexDigit? a) * 16 + (← hexDigit? b)
  let low := (← hexDigit? c) * 16 + (← hexDigit? d)
  let code := high * 256 + low
  if code.isValidChar then some (Char.ofNat code) else none

def escapedChar? (c : Char) : Option Char :=
  if c = '"' ∨ c = '\\' ∨ c = '/' then some c
  else if c = 'b' then some '\x08'
  else if c = 'f' then some '\x0c'
  else if c = 'n' then some '\n'
  else if c = 'r' then some '\r'
  else if c = 't' then some '\t'
  else none

/-- A text up to its closing quote, and what follows; the opening quote is read. All characters may
stand in it as they are. -/
def stringText? : List Char → Option (List Char × List Char)
  | [] => none
  | '"' :: rest => some ([], rest)
  | '\\' :: 'u' :: a :: b :: c :: d :: rest => do
    let char ← charOfDigits? a b c d
    (stringText? rest).map fun (chars, rest) => (char :: chars, rest)
  | '\\' :: c :: rest => do
    let char ← escapedChar? c
    (stringText? rest).map fun (chars, rest) => (char :: chars, rest)
  | c :: rest => (stringText? rest).map fun (chars, rest) => (c :: chars, rest)

def moreDigits? (marks rest : List Char) : Option (List Char × List Char) :=
  if rest.head?.any Char.isDigit then
    some (marks ++ rest.takeWhile Char.isDigit, rest.dropWhile Char.isDigit)
  else none

def numeral? (chars : List Char) : Option (List Char × List Char) := do
  let whole := chars.takeWhile Char.isDigit
  let rest := chars.dropWhile Char.isDigit
  let (fraction, rest) ← match rest with
    | '.' :: after => moreDigits? ['.'] after
    | _ => some ([], rest)
  let (exponent, rest) ← match rest with
    | e :: after =>
      if e = 'e' ∨ e = 'E' then
        match after with
        | '+' :: after => moreDigits? [e, '+'] after
        | '-' :: after => moreDigits? [e, '-'] after
        | _ => moreDigits? [e] after
      else some ([], rest)
    | [] => some ([], rest)
  return (whole ++ fraction ++ exponent, rest)

/-- The value of a numeral: one of digits alone is an integer, which may begin with zeros, as long
as it is not too great. -/
def numeralValue? (digits : List Char) : Option Json :=
  let n := digits.foldl (fun n c => n * 10 + (c.toNat - '0'.toNat)) 0
  if digits.all Char.isDigit && n ≤ filterIntegerLimit then some (.number (.integer n))
  else (Json.ofText (String.ofList digits)).toOption

/-- What follows a comment. It goes on in the next line if its line ends in an odd number of
backslashes. -/
def afterComment (odd : Bool) : List Char → List Char
  | [] => []
  | '\n' :: rest => if odd then afterComment false rest else rest
  | '\r' :: '\n' :: rest => if odd then afterComment false rest else rest
  | '\\' :: rest => afterComment (!odd) rest
  | _ :: rest => afterComment false rest

/-- The tokens of a filter; every step reads a character, and `fuel` bounds their number. -/
def all? : (fuel : Nat) → List Char → Option (List FilterToken)
  | 0, _ => none
  | _ + 1, [] => some []
  | fuel + 1, c :: rest =>
    if isWhiteSpace c then all? fuel rest
    else if c = '#' then all? fuel (afterComment false rest)
    else if c = '"' then do
      let (chars, rest) ← stringText? rest
      return string (String.ofList chars) :: (← all? fuel rest)
    else if c.isDigit then do
      let (digits, rest) ← numeral? (c :: rest)
      return number (← numeralValue? digits) :: (← all? fuel rest)
    else if isNameStart c then do
      let word := (c :: rest).takeWhile isNameChar
      return name (String.ofList word) :: (← all? fuel ((c :: rest).dropWhile isNameChar))
    else if c = '.' ∧ rest.head?.any isNameStart then do
      return field (String.ofList (rest.takeWhile isNameChar)) ::
        (← all? fuel (rest.dropWhile isNameChar))
    else if c = '.' ∧ rest.head? = some '.' then none
    else if ".[]\x7b\x7d()|,:?-".toList.contains c then
      return sign c :: (← all? fuel rest)
    else none

end FilterToken

namespace Filter

def readBracket : List FilterToken → Option (Selection × List FilterToken)
  | .sign ']' :: rest => some (.each, rest)
  | .string name :: .sign ']' :: rest => some (.key name, rest)
  | .number value :: .sign ']' :: rest => some (Selection.ofNumeral false value, rest)
  | .sign '-' :: .number value :: .sign ']' :: rest => some (Selection.ofNumeral true value, rest)
  | _ => none

/-- Whether question marks come next, and what follows them. -/
def isOptional (optional : Bool) : List FilterToken → Bool × List FilterToken
  | .sign '?' :: rest => isOptional true rest
  | tokens => (optional, tokens)

def readSelections : (fuel : Nat) → Filter → List FilterToken → Option (Filter × List FilterToken)
  | 0, _, _ => none
  | fuel + 1, source, tokens =>
    let select (selection : Selection) (rest : List FilterToken) :=
      let (optional, rest) := isOptional false rest
      readSelections fuel (.select source selection optional) rest
    match tokens with
    | .field name :: rest => select (.key name) rest
    | .sign '.' :: .string name :: rest => select (.key name) rest
    | .sign '[' :: rest => do
      let (selection, rest) ← readBracket rest
      select selection rest
    | .sign '?' :: rest => readSelections fuel (.attempt source) (isOptional true rest).2
    | _ => some (source, tokens)

mutual
/-- Filters between bars; commas bind tighter and may be left out of what is read. -/
def readPipe : (fuel : Nat) → (commas : Bool) → List FilterToken →
    Option (Filter × List FilterToken)
  | 0, _, _ => none
  | fuel + 1, commas, tokens => do
    let (first, rest) ← readComma fuel commas tokens
    match rest with
    | .sign '|' :: rest =>
      let (second, rest) ← readPipe fuel commas rest
      return (.pipe first second, rest)
    | _ => return (first, rest)
def readComma : (fuel : Nat) → (commas : Bool) → List FilterToken →
    Option (Filter × List FilterToken)
  | 0, _, _ => none
  | fuel + 1, commas, tokens => do
    let (first, rest) ← readTerm fuel tokens
    match commas, rest with
    | true, .sign ',' :: rest =>
      let (second, rest) ← readComma fuel commas rest
      return (.both first second, rest)
    | _, _ => return (first, rest)
def readTerm : (fuel : Nat) → List FilterToken → Option (Filter × List FilterToken)
  | 0, _ => none
  | fuel + 1, tokens =>
    match tokens with
    | .field name :: rest =>
      readSelections (tokens.length + 1) .identity (.field name :: rest)
    | .sign '.' :: .string name :: rest =>
      readSelections (tokens.length + 1) .identity (.sign '.' :: .string name :: rest)
    | .sign '.' :: rest => readSelections (tokens.length + 1) .identity rest
    | .string text :: rest => readSelections (tokens.length + 1) (.literal (.string text)) rest
    | .number value :: rest => readSelections (tokens.length + 1) (.literal value) rest
    | .name word :: rest => do
      let filter ←
        if word = "empty" then some .empty
        else if word = "null" then some (.literal .null)
        else if word = "true" then some (.literal (.boolean true))
        else if word = "false" then some (.literal (.boolean false))
        else none
      readSelections (tokens.length + 1) filter rest
    | .sign '(' :: rest => do
      let (filter, rest) ← readPipe fuel true rest
      match rest with
      | .sign ')' :: rest => readSelections (tokens.length + 1) filter rest
      | _ => none
    | .sign '[' :: .sign ']' :: rest =>
      readSelections (tokens.length + 1) (.collect none) rest
    | .sign '[' :: rest => do
      let (filter, rest) ← readPipe fuel true rest
      match rest with
      | .sign ']' :: rest => readSelections (tokens.length + 1) (.collect (some filter)) rest
      | _ => none
    | .sign '\x7b' :: .sign '\x7d' :: rest =>
      readSelections (tokens.length + 1) (.record []) rest
    | .sign '\x7b' :: rest => do
      let (members, rest) ← readMembers fuel rest
      readSelections (tokens.length + 1) (.record members) rest
    | _ => none
/-- The members of a record, behind the last of which a comma may stand. A name alone selects the
member of that name. -/
def readMembers : (fuel : Nat) → List FilterToken →
    Option (List (String × Filter) × List FilterToken)
  | 0, _ => none
  | fuel + 1, tokens => do
    let (name, rest) ← match tokens with
      | .name name :: rest => some (name, rest)
      | .string name :: rest => some (name, rest)
      | _ => none
    let (filter, rest) ← match rest with
      | .sign ':' :: rest => readPipe fuel false rest
      | _ => some (.select .identity (.key name) false, rest)
    match rest with
    | .sign '\x7d' :: rest => return ([(name, filter)], rest)
    | .sign ',' :: .sign '\x7d' :: rest => return ([(name, filter)], rest)
    | .sign ',' :: rest => do
      let (members, rest) ← readMembers fuel rest
      return ((name, filter) :: members, rest)
    | _ => none
end

def ofText? (text : String) : Option Filter := do
  let tokens ← FilterToken.all? (text.length + 1) text.toList
  match ← readPipe (3 * tokens.length + 3) true tokens with
  | (filter, []) => return filter
  | _ => none

end Filter

def runFilter? (text : String) (value : Json) : Option (List Json) :=
  (Filter.ofText? text).bind fun filter => filter.outputs? value

end CheckedTypes
