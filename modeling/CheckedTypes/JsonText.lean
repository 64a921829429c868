import CheckedTypes.DecimalText
import CheckedTypes.JsonValue
import CheckedTypes.Quoted

namespace CheckedTypes

def JsonNumber.text : JsonNumber → String
  | integer n => toString n
  | real x => x.markedText

namespace Json

mutual
def text : Json → String
  | .null => "null"
  | .boolean b => if b then "true" else "false"
  | .number n => n.text
  | .string s => quote s
  | .list elements => "[" ++ ",".intercalate (elementTexts elements) ++ "]"
  | .object members => "\x7b" ++ ",".intercalate (memberTexts members) ++ "\x7d"
def elementTexts : List Json → List String
  | [] => []
  | value :: rest => value.text :: elementTexts rest
def memberTexts : List (String × Json) → List String
  | [] => []
  | (name, value) :: rest => (quote name ++ ":" ++ value.text) :: memberTexts rest
end

end Json

end CheckedTypes
