import CheckedTypes.Target
import CheckedTypes.DecimalText
import CheckedTypes.CharProperty

namespace CheckedTypes

inductive Reason where
  | expected (kind : String)
  | integer
  | number
  | stringLength
  | stringPattern
  | arrayPresent
  | array
  | memberRequired
  | enumeration
deriving DecidableEq

namespace Reason

def text : Reason → String
  | expected kind => "expected " ++ kind
  | integer => "integer check failed"
  | number => "number check failed"
  | stringLength => "string check length failed"
  | stringPattern => "string check pattern failed"
  | arrayPresent => "array must have value"
  | array => "array check failed"
  | memberRequired => "member cannot be undefined"
  | enumeration => "wrong enum value"

end Reason

inductive Predicate where
  | present (cursor : Cursor)
  | member (object : Cursor) (name : String)
  | integer (constraints : NumericConstraints) (cursor : Cursor) (optional : Bool)
  | number (constraints : NumericConstraints) (cursor : Cursor) (optional : Bool)
  | length (constraints : StringConstraints) (cursor : Cursor) (optional : Bool)
  | pattern (index : Nat) (cursor : Cursor) (optional : Bool)
  | array (constraints : ArrayConstraints) (cursor : Cursor)

inductive Helper where
  | integer
  | number
  | string
  | pattern
  | array
  | enumeration

def Helper.name : Target → Helper → String
  | .go, integer => "IntegerValidation"
  | .go, number => "NumberValidation"
  | .go, string => "StringValidation"
  | .go, pattern => "PatternValidation"
  | .go, array => "ArrayValidation"
  | .go, enumeration => "EnumValidation"
  | .typescript, integer => "integerValidation"
  | .typescript, number => "numberValidation"
  | .typescript, string => "stringValidation"
  | .typescript, pattern => "patternValidation"
  | .typescript, array => "arrayValidation"
  | .typescript, enumeration => "enumValidation"

def patternVariable (index : Nat) : String :=
  "stringRegex" ++ toString index

/-- A count as a floating-point literal; counts have 64 bits and are never too large for one. -/
def countLiteral (count : Option Nat) : String :=
  ((Binary64.ofInt? (count.getD 0)).map Binary64.plainText).getD ""

def Bound.literal : Option Bound → String
  | none => "0"
  | some bound => bound.value.plainText

def flagLiteral (flag : Bool) : String :=
  if flag then "true" else "false"

/-- The limits of a number, whether they are there, whether they are exclusive, and the divisor. -/
def NumericConstraints.arguments (constraints : NumericConstraints) : List String :=
  [Bound.literal constraints.minimum, Bound.literal constraints.maximum,
   flagLiteral constraints.minimum.isSome, flagLiteral constraints.maximum.isSome,
   flagLiteral (constraints.minimum.any Bound.exclusive),
   flagLiteral (constraints.maximum.any Bound.exclusive),
   (constraints.multipleOf.map Binary64.plainText).getD "1",
   flagLiteral constraints.multipleOf.isSome]

def StringConstraints.arguments (constraints : StringConstraints) : List String :=
  [countLiteral constraints.minLength, countLiteral constraints.maxLength,
   flagLiteral constraints.minLength.isSome, flagLiteral constraints.maxLength.isSome]

def ArrayConstraints.arguments (constraints : ArrayConstraints) : List String :=
  [countLiteral constraints.minItems, countLiteral constraints.maxItems,
   flagLiteral constraints.minItems.isSome, flagLiteral constraints.maxItems.isSome,
   flagLiteral constraints.uniqueItems]

def Helper.call (target : Target) (helper : Helper) (arguments : List String) : String :=
  helper.name target ++ "(" ++ Target.commaSeparated arguments ++ ")"

namespace Predicate

def text (target : Target) : Predicate → String
  | present cursor => target.presentText (target.expression cursor)
  | member object name => target.memberText object name
  | integer constraints cursor optional =>
    Helper.integer.call target
      (constraints.arguments ++ [target.valueArgument cursor .integer optional])
  | number constraints cursor optional =>
    Helper.number.call target
      (constraints.arguments ++ [target.valueArgument cursor .number optional])
  | length constraints cursor optional =>
    Helper.string.call target
      (constraints.arguments ++ [target.valueArgument cursor .string optional])
  | pattern index cursor optional =>
    Helper.pattern.call target
      [patternVariable index, target.valueArgument cursor .string optional]
  | array constraints cursor =>
    Helper.array.call target (constraints.arguments ++ [target.expression cursor])

end Predicate

inductive ScanState where
  | code (depth : Nat)
  | literal (depth : Nat)
  | escape (depth : Nat)

def ScanState.step : ScanState → Char → ScanState
  | literal depth, c =>
    if c = '\\' then escape depth else if c = '"' then code depth else literal depth
  | escape depth, _ => literal depth
  | code depth, c =>
    if c = '"' then literal depth
    else if c = '(' ∨ c = '[' then code (depth + 1)
    else if c = ')' ∨ c = ']' then code (depth - 1)
    else code depth

/-- Whether an expression has a blank outside of literals and brackets. -/
def hasOuterBlank : ScanState → List Char → Bool
  | _, [] => false
  | state, c :: rest =>
    (match state with
      | .code 0 => isWhiteSpace c
      | _ => false) || hasOuterBlank (state.step c) rest

/-- Negates an expression, in parentheses where it consists of several words. -/
def negate (expression : String) : String :=
  if hasOuterBlank (.code 0) expression.toList then "!(" ++ expression ++ ")"
  else "!" ++ expression

inductive Statement where
  | failUnless (predicate : Predicate) (reason : Reason) (cursor : Cursor)
  | dispatch (ident : String) (cursor : Cursor)
  | guarded (cursor : Cursor) (body : List Statement)
  | loop (cursor : Cursor) (body : List Statement)
  | splice (body : List Statement)

def CodeWriter.block (w : CodeWriter) (header body : String) : CodeWriter :=
  ((w.openBlock header).embed body).closeBlock Target.blockEnd

mutual
/-- Writes a statement. The body of a block is finished as a text of its own before it is put in
place line by line. -/
def CodeWriter.statement (w : CodeWriter) (target : Target) : Statement → CodeWriter
  | .failUnless predicate reason cursor =>
    let opened := w.openBlock (target.ifHeader (negate (predicate.text target)))
    (opened.line (target.failureText reason.text cursor)).closeBlock Target.blockEnd
  | .dispatch ident cursor => w.line (target.dispatchText ident cursor)
  | .guarded cursor body =>
    w.block (target.ifHeader (target.presentText (target.expression cursor)))
      (CodeWriter.statements { tab := target.tab } target body).text
  | .loop cursor body =>
    w.block (target.loopHeader (target.expression cursor) cursor.loopVar)
      (CodeWriter.statements { tab := target.tab } target body).text
  | .splice body => w.embed (CodeWriter.statements { tab := target.tab } target body).text
def CodeWriter.statements (w : CodeWriter) (target : Target) : List Statement → CodeWriter
  | [] => w
  | statement :: rest => (w.statement target statement).statements target rest
end

def validatorText (target : Target) (body : List Statement) : String :=
  (CodeWriter.statements { tab := target.tab } target body).text

end CheckedTypes
