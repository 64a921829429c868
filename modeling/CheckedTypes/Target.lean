import CheckedTypes.CodeWriter
import CheckedTypes.Cursor
import CheckedTypes.Naming
import CheckedTypes.TypeNode

namespace CheckedTypes

inductive Target where
  | go
  | typescript
deriving DecidableEq

inductive Scalar where
  | boolean
  | integer
  | number
  | string
deriving DecidableEq

namespace Target

def name : Target → String
  | go => "go"
  | typescript => "typescript"

def tab : Target → String
  | go => "\t"
  | typescript => "    "

def rootVariable : String :=
  "main"

/-- Whether a validator calls the validators of the types it refers to; if not, the language's
decoding does. -/
def dispatches : Target → Bool
  | go => false
  | typescript => true

def declarationStart : Target → String → TypeNode → String
  | go, ident, .reference _ => "type " ++ ident ++ " = "
  | go, ident, _ => "type " ++ ident ++ " "
  | typescript, ident, _ => "export type " ++ ident ++ " = "

def declarationEnd : Target → String
  | go => ""
  | typescript => ";"

def scalarName : Target → Scalar → String
  | go, .boolean => "bool"
  | go, .integer => "int"
  | go, .number => "float64"
  | go, .string => "string"
  | typescript, .boolean => "boolean"
  | typescript, .integer => "number"
  | typescript, .number => "number"
  | typescript, .string => "string"

/-- Only Go marks the type of a member that may be absent; TypeScript marks the member. -/
def optionalMark : Target → (optional : Bool) → String
  | go, true => "*"
  | _, _ => ""

def nullPieces (target : Target) (optional : Bool) : List Piece :=
  [.text (target.optionalMark optional ++ "null")]

def scalarPieces (target : Target) (scalar : Scalar) (optional : Bool) : List Piece :=
  [.text (target.optionalMark optional ++ target.scalarName scalar)]

def referencePieces (target : Target) (ident : String) (optional : Bool) : List Piece :=
  [.text (target.optionalMark optional), .text ident]

def sequenceStart : Target → List Piece
  | go => [.text "[]"]
  | typescript => [.text "Array<"]

def sequenceEnd : Target → List Piece
  | go => []
  | typescript => [.text ">"]

def recordStart : Target → (optional : Bool) → List Piece
  | go, optional => [.text (go.optionalMark optional ++ "struct \x7b"), .newline, .indent]
  | typescript, _ => [.text "\x7b", .newline, .indent]

def recordEnd (_ : Target) : List Piece :=
  [.dedent, .text "\x7d"]

def fieldStart : Target → (name : String) → (optional : Bool) → List Piece
  | go, name, _ => [.text (renderName name), .text " "]
  | typescript, name, optional => [.text (quote name ++ (if optional then "?" else "") ++ ": ")]

def fieldEnd : Target → (name : String) → (optional : Bool) → List Piece
  | go, name, optional =>
    [.text (" `json:\"" ++ name ++ (if optional then ",omitempty" else "") ++ "\"`"), .newline]
  | typescript, _, _ => [.text ";", .newline]

def fieldAccessor : Target → String → String
  | go, name => "." ++ renderName name
  | typescript, name => "[" ++ quote name ++ "]"

def expression (target : Target) (cursor : Cursor) : String :=
  cursor.expression target.fieldAccessor

/-- A scalar as the argument of a check. Go passes its address: a member that may be absent is one
already, and the whole value has a type of its own that is converted first. -/
def valueArgument : Target → Cursor → Scalar → (optional : Bool) → String
  | go, cursor, scalar, optional =>
    let expression := go.expression cursor
    if optional then expression
    else if cursor.isRoot then "(*" ++ go.scalarName scalar ++ ")(&" ++ expression ++ ")"
    else "&" ++ expression
  | typescript, cursor, _, _ => typescript.expression cursor

def presentText : Target → (expression : String) → String
  | go, expression => expression ++ " != nil"
  | typescript, expression => "isPresent(" ++ expression ++ ")"

def commaSeparated (parts : List String) : String :=
  ", ".intercalate parts

/-- Whether an object has a member. Go looks into the undecoded document, where an absent member
differs from a null. -/
def memberText : Target → (object : Cursor) → (name : String) → String
  | go, object, name =>
    "rawHas(" ++ commaSeparated ("raw" :: (object.rawArguments ++ [quote name])) ++ ")"
  | typescript, object, name =>
    "hasMember(" ++ typescript.expression object ++ ", " ++ quote name ++ ")"

def ifHeader : Target → (condition : String) → String
  | go, condition => "if " ++ condition ++ " \x7b"
  | typescript, condition => "if (" ++ condition ++ ") \x7b"

def loopHeader : Target → (expression counter : String) → String
  | go, expression, counter => "for " ++ counter ++ " := range " ++ expression ++ " \x7b"
  | typescript, expression, counter =>
    "for (let " ++ counter ++ " = 0; " ++ counter ++ " < " ++ expression ++ ".length; " ++
      counter ++ "++) \x7b"

def blockEnd : String :=
  "\x7d"

def failureText : Target → (reason : String) → Cursor → String
  | go, reason, cursor =>
    "return validationError(" ++ commaSeparated (quote reason :: cursor.rawArguments) ++ ")"
  | typescript, reason, cursor =>
    "throw new ValidationError(" ++ quote reason ++ ", [" ++
      commaSeparated cursor.rawArguments ++ "]);"

def patternDeclaration : Target → (ident pattern : String) → String
  | go, ident, pattern => "var " ++ ident ++ " = regexp.MustCompile(" ++ quote pattern ++ ")"
  | typescript, ident, pattern => "const " ++ ident ++ " = new RegExp(" ++ quote pattern ++ ");"

/-- The call of the validator of another type, which does nothing where there is none. -/
def dispatchText (target : Target) (ident : String) (cursor : Cursor) : String :=
  "$checkTable[" ++ quote ident ++ "]?.(" ++ target.expression cursor ++ ");"

end Target

end CheckedTypes
