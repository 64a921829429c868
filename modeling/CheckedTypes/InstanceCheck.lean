import CheckedTypes.Statement
import CheckedTypes.TypeTable

namespace CheckedTypes

inductive ValueStep where
  | key (name : String)
  | index (position : Nat)
deriving DecidableEq

def ValueStep.text : ValueStep → String
  | key name => "[" ++ quote name ++ "]"
  | index position => "[" ++ toString position ++ "]"

def valuePathText (path : List ValueStep) : String :=
  String.join (path.map ValueStep.text)

/-- Why a value fails a check: it violates its type, the type cannot be evaluated, or references
lead from one to the next without end. -/
inductive CheckError where
  | violation (reason : Reason) (path : List ValueStep)
  | schema (fault : GenerateError)
  | endless

def CheckError.message : CheckError → String
  | violation reason [] => reason.text
  | violation reason path => reason.text ++ " at " ++ valuePathText path
  | schema fault => fault.message
  | endless => "references lead nowhere"

def Bound.admitsAbove (bound : Bound) (x : Binary64) : Bool :=
  if bound.exclusive then decide (bound.value < x) else decide (bound.value ≤ x)

def Bound.admitsBelow (bound : Bound) (x : Binary64) : Bool :=
  if bound.exclusive then decide (x < bound.value) else decide (x ≤ bound.value)

def NumericConstraints.admits (constraints : NumericConstraints) (x : Binary64) : Bool :=
  constraints.minimum.all (·.admitsAbove x) && constraints.maximum.all (·.admitsBelow x) &&
    constraints.multipleOf.all x.isMultipleOf

/-- The length of a text is the number of its characters. -/
def StringConstraints.admitsLength (constraints : StringConstraints) (text : String) : Bool :=
  constraints.minLength.all (· ≤ text.length) && constraints.maxLength.all (text.length ≤ ·)

def allDistinct (earlier : List Json) : List Json → Bool
  | [] => true
  | value :: rest => !earlier.any value.same && allDistinct (earlier ++ [value]) rest

def ArrayConstraints.admits (constraints : ArrayConstraints) (elements : List Json) : Bool :=
  constraints.minItems.all (· ≤ elements.length) &&
    constraints.maxItems.all (elements.length ≤ ·) &&
    (!constraints.uniqueItems || allDistinct [] elements)

abbrev CheckResult := Except CheckError Unit

def demand (condition : Bool) (reason : Reason) (path : List ValueStep) : CheckResult :=
  if condition then .ok () else .error (.violation reason path)

namespace TypeTable

/-- Follows references until they end at a type; tells whether there were any. -/
def dereference (table : TypeTable) : (hops : Nat) → TypeNode → Except CheckError (TypeNode × Bool)
  | 0, .reference _ => .error .endless
  | hops + 1, .reference pointer =>
    match table.resolve pointer with
    | .error fault => .error (.schema fault)
    | .ok entry => (table.dereference hops entry.node).map fun (node, _) => (node, true)
  | _, node => .ok (node, false)

end TypeTable

def checkInteger (constraints : NumericConstraints) (path : List ValueStep) (value : Json) :
    CheckResult :=
  match value.asBinary64?.filter Binary64.isIntegral with
  | none => .error (.violation (.expected "integer") path)
  | some x => demand (constraints.admits x) .integer path

def checkNumber (constraints : NumericConstraints) (path : List ValueStep) (value : Json) :
    CheckResult :=
  match value.asBinary64? with
  | none => .error (.violation (.expected "number") path)
  | some x => demand (constraints.admits x) .number path

def checkPattern (pattern : Option String) (path : List ValueStep) (text : String) :
    CheckResult :=
  match pattern with
  | none => .ok ()
  | some pattern =>
    match Regex.ofText? pattern with
    | none => .error (.schema (.schemaShape (valuePathText path) "invalid pattern"))
    | some regex => demand (regex.isMatch text) .stringPattern path

def checkString (constraints : StringConstraints) (path : List ValueStep) (value : Json) :
    CheckResult :=
  match value.asString? with
  | none => .error (.violation (.expected "string") path)
  | some text => do
    demand (constraints.admitsLength text) .stringLength path
    checkPattern constraints.pattern path text

/-- The first declared property that is required but no member. -/
def missingMember? (properties : List (String × TypeNode)) (required : Option (List String))
    (members : List (String × Json)) : Option String :=
  (TypeNode.requiredNames (sortByName properties) required).find? fun name =>
    (members.lookup name).isNone

/-- The result of the first member that fails, in the order of the properties. -/
def firstFailure (results : List (String × CheckResult)) : List (String × TypeNode) → CheckResult
  | [] => .ok ()
  | (name, _) :: rest =>
    match results.lookup name with
    | some (.error fault) => .error fault
    | _ => firstFailure results rest

def requires (required : Option (List String)) (name : String) : Bool :=
  (required.getD []).contains name

mutual
/-- Checks a value against a type. Behind a reference the path starts anew. -/
def checkValue (table : TypeTable) (node : TypeNode) (path : List ValueStep) (value : Json) :
    CheckResult :=
  match table.dereference table.size node with
  | .error fault => .error fault
  | .ok (node, restarts) =>
    let path := if restarts then [] else path
    match node with
    | .null => demand (value matches .null) (.expected "null") path
    | .boolean => demand (value matches .boolean _) (.expected "boolean") path
    | .integer constraints => checkInteger constraints path value
    | .number constraints => checkNumber constraints path value
    | .string constraints => checkString constraints path value
    | .array none _ _ =>
      .error (.schema (.schemaShape (valuePathText path) "array must have item type"))
    | .array (some items) _ constraints =>
      match value with
      | .list elements =>
        match demand (constraints.admits elements) .array path with
        | .error fault => .error fault
        | .ok _ => checkElements table items path 0 elements
      | .null => .error (.violation .arrayPresent path)
      | _ => .error (.violation (.expected "array") path)
    | .object properties required =>
      match value with
      | .object members =>
        match missingMember? properties required members with
        | some name => .error (.violation .memberRequired (path ++ [.key name]))
        | none =>
          firstFailure (checkMembers table properties required path members)
            (sortByName properties)
      | _ => .error (.violation (.expected "object") path)
    | .enumeration values => demand (value.asString?.any values.contains) .enumeration path
    | .reference _ => .error .endless
def checkElements (table : TypeTable) (items : TypeNode) (path : List ValueStep)
    (position : Nat) : List Json → CheckResult
  | [] => .ok ()
  | value :: rest =>
    match checkValue table items (path ++ [.index position]) value with
    | .error fault => .error fault
    | .ok _ => checkElements table items path (position + 1) rest
/-- The results of the members that are declared. A null counts as absent where the member is not
required. -/
def checkMembers (table : TypeTable) (properties : List (String × TypeNode))
    (required : Option (List String)) (path : List ValueStep) :
    List (String × Json) → List (String × CheckResult)
  | [] => []
  | (name, value) :: rest =>
    let result :=
      match properties.lookup name with
      | none => .ok ()
      | some node =>
        if (value matches .null) && !requires required name then .ok ()
        else checkValue table node (path ++ [.key name]) value
    (name, result) :: checkMembers table properties required path rest
end

namespace TypeTable

def check (table : TypeTable) (typeName : String) (value : Json) : CheckResult :=
  match table.lookup? typeName with
  | none => .error (.schema (.unresolvedReference typeName))
  | some entry => checkValue table entry.node [] value

end TypeTable

end CheckedTypes
