import CheckedTypes.JsonSource
import CheckedTypes.DecimalText
import CheckedTypes.EscapedText

namespace CheckedTypes

/-- The keywords of a schema document, in the order in which a list gives them. -/
inductive Keyword where
  | type | ref | enum | properties | required | items | additionalItems | minItems | maxItems
  | uniqueItems | minimum | maximum | exclusiveMinimum | exclusiveMaximum | multipleOf
  | minLength | maxLength | pattern | format | definitions | defs
deriving DecidableEq

namespace Keyword

def all : List Keyword :=
  [type, ref, enum, properties, required, items, additionalItems, minItems, maxItems, uniqueItems,
   minimum, maximum, exclusiveMinimum, exclusiveMaximum, multipleOf, minLength, maxLength, pattern,
   format, definitions, defs]

def name : Keyword → String
  | type => "type"
  | ref => "$ref"
  | enum => "enum"
  | properties => "properties"
  | required => "required"
  | items => "items"
  | additionalItems => "additionalItems"
  | minItems => "minItems"
  | maxItems => "maxItems"
  | uniqueItems => "uniqueItems"
  | minimum => "minimum"
  | maximum => "maximum"
  | exclusiveMinimum => "exclusiveMinimum"
  | exclusiveMaximum => "exclusiveMaximum"
  | multipleOf => "multipleOf"
  | minLength => "minLength"
  | maxLength => "maxLength"
  | pattern => "pattern"
  | format => "format"
  | definitions => "definitions"
  | defs => "$defs"

def ofName? (text : String) : Option Keyword :=
  all.find? (fun keyword => keyword.name == text)

end Keyword

inductive Found where
  | null
  | boolean (b : Bool)
  | number (n : JsonNumber)
  | string (s : String)
  | list
  | object

inductive Expected where
  | naturalNumber
  | number
  | boolean
  | string
  | list
  | object
  | document

/-- A keyword whose value may take one of several forms. -/
inductive Alternative where
  | typeNames
  | items
  | exclusive

inductive DocumentFault where
  | malformed (fault : JsonFault)
  | wrongKind (found : Found) (expected : Expected)
  | negative (n : Int)
  | repeatedKeyword (keyword : Keyword)
  | noAlternative (alternative : Alternative)
  | tooFewElements (count : Nat)
  | tooManyElements (count : Nat)

inductive GenerateError where
  | document (path : List PathSegment) (fault : DocumentFault)
  | duplicateDefinition (what : String)
  | missingRootName
  | unsupportedShape (location reason : String)
  | malformedReference (pointer : String)
  | unresolvedReference (pointer : String)
  | schemaShape (location reason : String)

def Found.text : Found → String
  | .null => "null"
  | .boolean b => "boolean `" ++ toString b ++ "`"
  | .number (.integer n) => "integer `" ++ toString n ++ "`"
  | .number (.real x) => "floating point `" ++ x.markedText ++ "`"
  | .string s => "string " ++ showQuoted s
  | .list => "sequence"
  | .object => "map"

def Expected.text : Expected → String
  | .naturalNumber => "u64"
  | .number => "f64"
  | .boolean => "a boolean"
  | .string => "a string"
  | .list => "a sequence"
  | .object => "a map"
  | .document => "struct SchemaDocument"

def Alternative.text : Alternative → String
  | .typeNames => "TypeNames"
  | .items => "Items"
  | .exclusive => "Exclusive"

def DocumentFault.message : DocumentFault → String
  | .malformed fault => fault.message
  | .wrongKind found expected =>
    "invalid type: " ++ found.text ++ ", expected " ++ expected.text
  | .negative n =>
    "invalid value: integer `" ++ toString n ++ "`, expected " ++ Expected.naturalNumber.text
  | .repeatedKeyword keyword => "duplicate field `" ++ keyword.name ++ "`"
  | .noAlternative alternative =>
    "data did not match any variant of untagged enum " ++ alternative.text
  | .tooFewElements count =>
    "invalid length " ++ toString count ++ ", expected " ++ Expected.document.text ++ " with " ++
      toString Keyword.all.length ++ " elements"
  | .tooManyElements count =>
    "invalid length " ++ toString count ++ ", expected fewer elements in array"

/-- The path in dots and brackets; the whole document is a dot. -/
def pathText : List PathSegment → String
  | [] => "."
  | segments =>
    let rec go (first : Bool) : List PathSegment → String
      | [] => ""
      | .member name :: rest => (if first then "" else ".") ++ name ++ go false rest
      | .element index :: rest => "[" ++ toString index ++ "]" ++ go false rest
      | .unknown :: rest => (if first then "" else ".") ++ "?" ++ go false rest
    go true segments

def GenerateError.message : GenerateError → String
  | .document path fault =>
    "failed to read schema document: at JSON path " ++ pathText path ++ " → " ++ fault.message
  | .duplicateDefinition what => "duplicate name " ++ what
  | .missingRootName =>
    "need a root-type name: the schema document declares a top-level type"
  | .unsupportedShape location reason =>
    "unsupported schema shape at " ++ location ++ ": " ++ reason
  | .malformedReference pointer => "wrong $ref format: " ++ pointer
  | .unresolvedReference pointer =>
    "$ref " ++ pointer ++ " does not resolve to a known definition"
  | .schemaShape location reason => "invalid schema at " ++ location ++ ": " ++ reason

end CheckedTypes
