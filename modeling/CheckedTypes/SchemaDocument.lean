import CheckedTypes.TypeNode
import CheckedTypes.GenerateError

namespace CheckedTypes

inductive TypeNames where
  | one (name : String)
  | many (names : List String)

/-- One document for every element or one for each. -/
inductive Items (Document : Type) where
  | tuple (documents : List Document)
  | single (document : Document)

/-- A mark on the bound beside it, or a bound of its own. -/
inductive Exclusive where
  | flag (exclusive : Bool)
  | bound (value : Binary64)

structure NumericKeywords where
  minimum : Option Binary64 := none
  maximum : Option Binary64 := none
  exclusiveMinimum : Option Exclusive := none
  exclusiveMaximum : Option Exclusive := none
  multipleOf : Option Binary64 := none

structure SchemaDocument where
  typeNames : Option TypeNames := none
  ref : Option String := none
  enum : Option (List Json) := none
  properties : Option (List (String × SchemaDocument)) := none
  required : Option (List String) := none
  items : Option (Items SchemaDocument) := none
  additionalItems : Option Json := none
  array : ArrayConstraints := {}
  numeric : NumericKeywords := {}
  string : StringConstraints := {}
  definitions : Option (List (String × SchemaDocument)) := none
  defs : Option (List (String × SchemaDocument)) := none

namespace SchemaDocument

/-- A document that is no type only holds definitions. -/
def isType (document : SchemaDocument) : Bool :=
  document.typeNames.isSome || document.ref.isSome || document.enum.isSome ||
    document.properties.isSome

def repeatedDefinition? (document : SchemaDocument) : Option String :=
  let names := (document.definitions.getD []).map Prod.fst
  ((document.defs.getD []).map Prod.fst).find? names.contains

/-- The definitions of both sections; `name` names the document in the error. -/
def childDefinitions (document : SchemaDocument) (name : String) :
    Except GenerateError (List (String × SchemaDocument)) :=
  match document.repeatedDefinition? with
  | some child =>
    .error (.duplicateDefinition (if name.isEmpty then child else name ++ "/" ++ child))
  | none => .ok (document.definitions.getD [] ++ document.defs.getD [])

end SchemaDocument

end CheckedTypes
