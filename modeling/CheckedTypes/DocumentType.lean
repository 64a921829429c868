import CheckedTypes.SchemaDocument
import CheckedTypes.PatternText

namespace CheckedTypes

inductive TypeKind where
  | null
  | boolean
  | integer
  | number
  | string
  | array
  | object

def TypeKind.ofName? (name : String) : Option TypeKind :=
  if name = "null" then some null
  else if name = "boolean" then some boolean
  else if name = "integer" then some integer
  else if name = "number" then some number
  else if name = "string" then some string
  else if name = "array" then some array
  else if name = "object" then some object
  else none

def TypeNames.single? : TypeNames → Option String
  | one name => some name
  | many [name] => some name
  | many _ => none

namespace NumericKeywords

/-- The bound that an inclusive and an exclusive keyword make. Of two bounds the stricter one
counts, and the exclusive one of two equal bounds. -/
def bound (stricter : Binary64 → Binary64 → Bool) (inclusive : Option Binary64)
    (exclusive : Option Exclusive) : Option Bound :=
  match inclusive, exclusive with
  | none, none => none
  | none, some (.flag _) => none
  | none, some (.bound value) => some ⟨value, true⟩
  | some value, none => some ⟨value, false⟩
  | some value, some (.flag exclusive) => some ⟨value, exclusive⟩
  | some value, some (.bound other) =>
    if stricter value other then some ⟨value, false⟩ else some ⟨other, true⟩

def constraints (keywords : NumericKeywords) : NumericConstraints where
  minimum := bound (fun a b => b < a) keywords.minimum keywords.exclusiveMinimum
  maximum := bound (fun a b => a < b) keywords.maximum keywords.exclusiveMaximum
  multipleOf := keywords.multipleOf

end NumericKeywords

namespace SchemaDocument

/-- The type that a document without reference and enumeration has. -/
def typeKind (location : String) (typeNames : Option TypeNames) (hasProperties : Bool) :
    Except GenerateError TypeKind :=
  match typeNames with
  | none =>
    if hasProperties then .ok .object else .error (.schemaShape location "must define type impl")
  | some names =>
    match names.single? with
    | none => .error (.unsupportedShape location "multiple type is not supported")
    | some name =>
      match TypeKind.ofName? name with
      | none => .error (.unsupportedShape location ("unknown type " ++ name))
      | some kind => .ok kind

def literals (location : String) : List Json → Except GenerateError (List String)
  | [] => .ok []
  | .string literal :: rest => (literals location rest).map (literal :: ·)
  | _ :: _ => .error (.unsupportedShape location "only support string enum")

def enumeration (location : String) (typeNames : Option TypeNames) (values : List Json) :
    Except GenerateError TypeNode :=
  if typeNames.all (fun names => names.single? == some "string") then
    if values.isEmpty then .error (.schemaShape location "enum must list at least one value")
    else (literals location values).map .enumeration
  else .error (.unsupportedShape location "only support string enum")

/-- A pattern has to mean something. -/
def stringType (location : String) (constraints : StringConstraints) :
    Except GenerateError TypeNode :=
  if constraints.pattern.all fun pattern => (Regex.ofText? pattern).isSome then
    .ok (.string constraints)
  else .error (.schemaShape location "invalid pattern")

mutual
/-- The type that a document describes; `location` names the document in errors. A reference hides
all other keywords, and an enumeration hides the rest. -/
def toTypeNode (location : String) : SchemaDocument → Except GenerateError TypeNode
  | ⟨typeNames, ref, enum, properties, required, items, additionalItems, array, numeric, string,
      _, _⟩ =>
    match ref, enum with
    | some pointer, _ => .ok (.reference pointer)
    | none, some values => enumeration location typeNames values
    | none, none =>
      match typeKind location typeNames properties.isSome with
      | .error fault => .error fault
      | .ok .null => .ok .null
      | .ok .boolean => .ok .boolean
      | .ok .integer => .ok (.integer numeric.constraints)
      | .ok .number => .ok (.number numeric.constraints)
      | .ok .string => stringType location string
      | .ok .array =>
        (itemsNode location items).map (TypeNode.array · additionalItems.isSome array)
      | .ok .object =>
        match properties with
        | none => .ok (.object [] required)
        | some properties => (propertyNodes location properties).map (.object · required)
def itemsNode (location : String) :
    Option (Items SchemaDocument) → Except GenerateError (Option TypeNode)
  | none => .ok none
  | some (.single document) => (document.toTypeNode (location ++ "/items")).map some
  | some (.tuple _) => .error (.unsupportedShape location "only support single type array")
def propertyNodes (location : String) :
    List (String × SchemaDocument) → Except GenerateError (List (String × TypeNode))
  | [] => .ok []
  | (name, document) :: rest =>
    match document.toTypeNode (location ++ "/properties/" ++ name) with
    | .error fault => .error fault
    | .ok node => (propertyNodes location rest).map ((name, node) :: ·)
end

end SchemaDocument

end CheckedTypes
