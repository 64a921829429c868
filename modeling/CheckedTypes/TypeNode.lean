import CheckedTypes.Binary64

namespace CheckedTypes

/-- A limit of a range, which the range may leave out. -/
structure Bound where
  value : Binary64
  exclusive : Bool

structure NumericConstraints where
  minimum : Option Bound
  maximum : Option Bound
  multipleOf : Option Binary64

structure StringConstraints where
  minLength : Option Nat := none
  maxLength : Option Nat := none
  pattern : Option String := none
  format : Option String := none

structure ArrayConstraints where
  minItems : Option Nat := none
  maxItems : Option Nat := none
  uniqueItems : Bool := false

def NumericConstraints.isEmpty (c : NumericConstraints) : Bool :=
  c.minimum.isNone && c.maximum.isNone && c.multipleOf.isNone

def StringConstraints.hasLength (c : StringConstraints) : Bool :=
  c.minLength.isSome || c.maxLength.isSome

/-- The format is carried along and constrains nothing. -/
def StringConstraints.isEmpty (c : StringConstraints) : Bool :=
  !c.hasLength && c.pattern.isNone

def ArrayConstraints.isEmpty (c : ArrayConstraints) : Bool :=
  c.minItems.isNone && c.maxItems.isNone && !c.uniqueItems

/-- A type. Not every node can be generated: an array may lack its items or allow additional ones,
an enumeration stands only at the top, and a reference may lead nowhere. -/
inductive TypeNode where
  | null
  | boolean
  | integer (constraints : NumericConstraints)
  | number (constraints : NumericConstraints)
  | string (constraints : StringConstraints)
  | array (items : Option TypeNode) (additionalItems : Bool) (constraints : ArrayConstraints)
  | object (properties : List (String × TypeNode)) (required : Option (List String))
  | enumeration (values : List String)
  | reference (pointer : String)

def sortByName {α : Type} (named : List (String × α)) : List (String × α) :=
  named.mergeSort (fun a b => !decide (b.1 < a.1))

namespace TypeNode

def isReference : TypeNode → Bool
  | .reference _ => true
  | _ => false

/-- The declared properties that are required, in the order of the properties. -/
def requiredNames (properties : List (String × TypeNode)) (required : Option (List String)) :
    List String :=
  (properties.map Prod.fst).filter (required.getD []).contains

mutual
/-- The same type with the properties of every object in the order of their names, of which the
required ones are listed once. -/
def sorted : TypeNode → TypeNode
  | .array (some items) additionalItems constraints =>
    .array (some items.sorted) additionalItems constraints
  | .object properties required =>
    let properties := sortByName (sortedProperties properties)
    .object properties (some (requiredNames properties required))
  | node => node
def sortedProperties : List (String × TypeNode) → List (String × TypeNode)
  | [] => []
  | (name, node) :: rest => (name, node.sorted) :: sortedProperties rest
end

end TypeNode

end CheckedTypes
