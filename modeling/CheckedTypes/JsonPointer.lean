import CheckedTypes.JsonValue
import CheckedTypes.SplitText

namespace CheckedTypes

/-- A name in a pointer: a slash is written with a tilde and a one, a tilde with a zero. -/
def unescapeToken : List Char → List Char
  | '~' :: '1' :: rest => '/' :: unescapeToken rest
  | '~' :: '0' :: rest => '~' :: unescapeToken rest
  | c :: rest => c :: unescapeToken rest
  | [] => []

/-- A position in a list: digits without a zero in front. -/
def position? (token : List Char) : Option Nat :=
  if token.isEmpty || !token.all Char.isDigit || (token.head? == some '0' && token.length != 1) then
    none
  else some (token.foldl (fun n c => n * 10 + (c.toNat - '0'.toNat)) 0)

namespace Json

def member? (name : String) : Json → Option Json
  | .object members => members.lookup name
  | _ => none

def part? (token : List Char) : Json → Option Json
  | .object members => members.lookup (String.ofList token)
  | .list elements => (position? token).bind fun position => elements[position]?
  | _ => none

/-- The part of a value that a pointer selects. The empty pointer selects the whole value. -/
def pointer? (value : Json) (pointer : String) : Option Json :=
  match splitOn '/' pointer.toList with
  | [] :: tokens => tokens.foldlM (fun value token => value.part? (unescapeToken token)) value
  | _ => none

end Json

end CheckedTypes
