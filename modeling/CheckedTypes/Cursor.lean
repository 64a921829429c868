import CheckedTypes.Quoted

namespace CheckedTypes

inductive DescentStep where
  | field (name : String)
  | element
deriving DecidableEq

/-- One step of a descent as data sees it: a member name or the loop that counts the elements. -/
inductive RawSegment where
  | key (name : String)
  | index (level : Nat)
deriving DecidableEq

def loopVariable (level : Nat) : String :=
  "i" ++ toString level

/-- A place inside the value that the expression `root` names. -/
structure Cursor where
  root : String
  steps : List DescentStep := []
deriving DecidableEq

namespace Cursor

def field (cursor : Cursor) (name : String) : Cursor :=
  { cursor with steps := cursor.steps ++ [.field name] }

def element (cursor : Cursor) : Cursor :=
  { cursor with steps := cursor.steps ++ [.element] }

def level (cursor : Cursor) : Nat :=
  cursor.steps.count .element

/-- The variable that the next descent into an element counts with. -/
def loopVar (cursor : Cursor) : String :=
  loopVariable cursor.level

/-- Loops are numbered from `level` on, from the outside in. -/
def rawFrom (level : Nat) : List DescentStep → List RawSegment
  | [] => []
  | .field name :: steps => .key name :: rawFrom level steps
  | .element :: steps => .index level :: rawFrom (level + 1) steps

def raw (cursor : Cursor) : List RawSegment :=
  rawFrom 0 cursor.steps

def isRoot (cursor : Cursor) : Bool :=
  cursor.steps.isEmpty

def accessors (fieldAccessor : String → String) (cursor : Cursor) : List String :=
  cursor.raw.map fun
    | .key name => fieldAccessor name
    | .index level => "[" ++ loopVariable level ++ "]"

def expression (fieldAccessor : String → String) (cursor : Cursor) : String :=
  cursor.root ++ String.join (cursor.accessors fieldAccessor)

def display (cursor : Cursor) : String :=
  String.join (cursor.raw.map fun
    | .key name => "[" ++ quote name ++ "]"
    | .index level => "[" ++ loopVariable level ++ "]")

def rawArguments (cursor : Cursor) : List String :=
  cursor.raw.map fun
    | .key name => quote name
    | .index level => loopVariable level

end Cursor

end CheckedTypes
