import CheckedTypes.TypeTable

namespace CheckedTypes

mutual
/-- Whether a type has a constraint of its own or, where references count, refers to a type that is
validated already. Only the references that are looked at need to lead anywhere. -/
def TypeNode.isConstrained (table : TypeTable) (explicit : Bool) (validated : List String) :
    TypeNode → Except GenerateError Bool
  | .null | .boolean | .enumeration _ => .ok false
  | .integer constraints => .ok !constraints.isEmpty
  | .number constraints => .ok !constraints.isEmpty
  | .string constraints => .ok !constraints.isEmpty
  | .array items _ constraints =>
    if constraints.isEmpty then
      match items with
      | none => .ok false
      | some items => items.isConstrained table explicit validated
    else .ok true
  | .object properties required =>
    if (TypeNode.requiredNames properties required).isEmpty then
      isAnyConstrained table explicit validated properties
    else .ok true
  | .reference pointer =>
    if explicit then (table.resolve pointer).map fun entry => validated.contains entry.ident
    else .ok false
def TypeNode.isAnyConstrained (table : TypeTable) (explicit : Bool) (validated : List String) :
    List (String × TypeNode) → Except GenerateError Bool
  | [] => .ok false
  | (_, node) :: rest =>
    match node.isConstrained table explicit validated with
    | .ok false => isAnyConstrained table explicit validated rest
    | decided => decided
end

def TypeNode.isEnumeration : TypeNode → Bool
  | .enumeration _ => true
  | _ => false

namespace TypeTable

def addConstrained (table : TypeTable) (explicit : Bool) (validated : List String) :
    List TypeEntry → Except GenerateError (List String)
  | [] => .ok validated
  | entry :: rest =>
    if validated.contains entry.ident then table.addConstrained explicit validated rest
    else
      match entry.node.isConstrained table explicit validated with
      | .error fault => .error fault
      | .ok true => table.addConstrained explicit (validated ++ [entry.ident]) rest
      | .ok false => table.addConstrained explicit validated rest

/-- Goes through the types until nothing is added. -/
def closeConstrained (table : TypeTable) (explicit : Bool) :
    (rounds : Nat) → (validated : List String) → Except GenerateError (List String)
  | 0, validated => .ok validated
  | rounds + 1, validated =>
    match table.addConstrained explicit validated table.sortedEntries with
    | .error fault => .error fault
    | .ok more =>
      if more.length = validated.length then .ok validated
      else table.closeConstrained explicit rounds more

/-- The identifiers of the types that get a validator: enumerations and types with a constraint and,
where validators call each other, the types that refer to one of these. Every round but the last
adds a type. -/
def validatedTypes (table : TypeTable) (explicit : Bool) : Except GenerateError (List String) :=
  let enumerations := table.sortedEntries.filter (·.node.isEnumeration)
  table.closeConstrained explicit (table.size + 1) (enumerations.map TypeEntry.ident)

end TypeTable

end CheckedTypes
