import CheckedTypes.Binary64

namespace CheckedTypes

/-- A number keeps whether it was written as an integer: `1` and `1.0` differ. -/
inductive JsonNumber where
  | integer (n : Int)
  | real (x : Binary64)

namespace JsonNumber

instance : BEq JsonNumber where
  beq
    | .integer m, .integer n => m == n
    | .real x, .real y => x == y
    | _, _ => false

def toBinary64? : JsonNumber → Option Binary64
  | .integer n => Binary64.ofInt? n
  | .real x => some x

end JsonNumber

/-- A JSON value. The members of an object are in order, each name once. -/
inductive Json where
  | null
  | boolean (b : Bool)
  | number (n : JsonNumber)
  | string (s : String)
  | list (elements : List Json)
  | object (members : List (String × Json))

/-- Puts a value under a name: a name that is there keeps its place. -/
def insertMember {α : Type} (name : String) (value : α) : List (String × α) → List (String × α)
  | [] => [(name, value)]
  | (other, old) :: rest =>
    if other = name then (name, value) :: rest else (other, old) :: insertMember name value rest

namespace Json

mutual
/-- Equality that sees the order of elements but not that of members. -/
def same : Json → Json → Bool
  | .null, .null => true
  | .boolean a, .boolean b => a == b
  | .number m, .number n => m == n
  | .string s, .string t => s == t
  | .list xs, .list ys => sameElements xs ys
  | .object ms, .object ns => ms.length == ns.length && sameMembers ms ns
  | _, _ => false
def sameElements : List Json → List Json → Bool
  | [], [] => true
  | x :: xs, y :: ys => x.same y && sameElements xs ys
  | _, _ => false
def sameMembers : List (String × Json) → List (String × Json) → Bool
  | [], _ => true
  | (name, value) :: rest, others =>
    (match others.lookup name with
      | some other => value.same other
      | none => false) && sameMembers rest others
end

def asBinary64? : Json → Option Binary64
  | .number n => n.toBinary64?
  | _ => none

def asString? : Json → Option String
  | .string s => some s
  | _ => none

end Json

end CheckedTypes
