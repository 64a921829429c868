import CheckedTypes.Statement
import CheckedTypes.ValidatedTypes

namespace CheckedTypes

structure EmissionContext where
  target : Target
  table : TypeTable
  /-- The identifiers of the types that have a validator. -/
  validated : List String
  /-- The type at hand, as errors name it. -/
  current : String

/-- What a type adds to the file. An error leaves the declaration as far as it came and the patterns
met by then, but no checks. -/
structure Emission where
  declaration : List Piece
  patterns : List String := []
  outcome : Except GenerateError (Bool × List Statement)

namespace Emission

def unchecked (declaration : List Piece) : Emission :=
  { declaration, outcome := .ok (true, []) }

def checked (declaration : List Piece) (checks : List Statement) : Emission :=
  { declaration, outcome := .ok (false, checks) }

def failed (fault : GenerateError) : Emission :=
  { declaration := [], outcome := .error fault }

/-- An emission between two parts of a declaration, of which the second is only written if nothing
fails. -/
def within (before : List Piece) (emission : Emission) (after : List Piece)
    (finish : Bool → List Statement → Bool × List Statement) : Emission :=
  match emission.outcome with
  | .error fault =>
    { emission with declaration := before ++ emission.declaration, outcome := .error fault }
  | .ok (ignorable, checks) =>
    { emission with
      declaration := before ++ emission.declaration ++ after
      outcome := .ok (finish ignorable checks) }

/-- One emission after another, unless the first fails. -/
def andThen (first second : Emission) : Emission :=
  match first.outcome with
  | .error _ => first
  | .ok (ignorable, checks) =>
    { declaration := first.declaration ++ second.declaration
      patterns := first.patterns ++ second.patterns
      outcome := second.outcome.map fun (rest, more) => (ignorable && rest, checks ++ more) }

end Emission

/-- The first name that renders like an earlier one, after that one. -/
def collision? (seen : List String) : List String → Option (String × String)
  | [] => none
  | name :: rest =>
    match seen.find? fun other => renderName other == renderName name with
    | some other => some (other, name)
    | none => collision? (seen ++ [name]) rest

namespace EmissionContext

def location (context : EmissionContext) (cursor : Cursor) : String :=
  context.current ++ cursor.display

def collisionError (context : EmissionContext) (cursor : Cursor) (first second : String) :
    GenerateError :=
  .duplicateDefinition
    (context.location cursor ++ "." ++ renderName second ++ " (properties " ++ showQuoted first ++
      " and " ++ showQuoted second ++ ")")

def unlessEmpty (constrained : Bool) (check : Statement) : List Statement :=
  if constrained then [check] else []

/-- The checks of a string: its length comes before its pattern. -/
def stringEmission (context : EmissionContext) (cursor : Cursor) (optional : Bool) (next : Nat)
    (constraints : StringConstraints) : Emission :=
  { declaration := context.target.scalarPieces .string optional
    patterns := constraints.pattern.toList
    outcome := .ok (constraints.isEmpty,
      unlessEmpty constraints.hasLength
          (.failUnless (.length constraints cursor optional) .stringLength cursor) ++
        unlessEmpty constraints.pattern.isSome
          (.failUnless (.pattern next cursor optional) .stringPattern cursor)) }

/-- The checks of an array around those of its elements: a required one has to be there, and an
optional one is only looked at if it is. -/
def arrayChecks (cursor : Cursor) (optional : Bool) (constraints : ArrayConstraints)
    (elements : List Statement) : List Statement :=
  let body :=
    unlessEmpty (!constraints.isEmpty) (.failUnless (.array constraints cursor) .array cursor) ++
      unlessEmpty (!elements.isEmpty) (.loop cursor elements)
  if optional then unlessEmpty (!body.isEmpty) (.guarded cursor body)
  else
    .failUnless (.present cursor) .arrayPresent cursor ::
      unlessEmpty (!body.isEmpty) (.splice body)

def objectChecks (cursor : Cursor) (optional : Bool) (required : List String)
    (members : List Statement) : List Statement :=
  let probes := required.map fun name =>
    Statement.failUnless (.member cursor name) .memberRequired (cursor.field name)
  let body := probes ++ members
  unlessEmpty (!body.isEmpty) (if optional then .guarded cursor body else .splice body)

mutual
/-- What a type with sorted properties adds; `next` is the number of the next pattern. -/
def emission (context : EmissionContext) (cursor : Cursor) (optional : Bool) (next : Nat) :
    TypeNode → Emission
  | .null => .unchecked (context.target.nullPieces optional)
  | .boolean => .unchecked (context.target.scalarPieces .boolean optional)
  | .integer constraints =>
    { declaration := context.target.scalarPieces .integer optional
      outcome := .ok (constraints.isEmpty,
        unlessEmpty (!constraints.isEmpty)
          (.failUnless (.integer constraints cursor optional) .integer cursor)) }
  | .number constraints =>
    { declaration := context.target.scalarPieces .number optional
      outcome := .ok (constraints.isEmpty,
        unlessEmpty (!constraints.isEmpty)
          (.failUnless (.number constraints cursor optional) .number cursor)) }
  | .string constraints => context.stringEmission cursor optional next constraints
  | .array items additionalItems constraints =>
    if additionalItems then
      .failed (.unsupportedShape (context.location cursor)
        "additional items are not supported, only single type arrays")
    else
      match items with
      | none => .failed (.schemaShape (context.location cursor) "array must have item type")
      | some items =>
        (context.emission cursor.element false next items).within
          context.target.sequenceStart context.target.sequenceEnd fun ignorable elements =>
            (ignorable && constraints.isEmpty, arrayChecks cursor optional constraints elements)
  | .object properties required =>
    match collision? [] (properties.map Prod.fst) with
    | some (first, second) => .failed (context.collisionError cursor first second)
    | none =>
      let required := required.getD []
      (context.memberEmissions cursor required next properties).within
        (context.target.recordStart optional) context.target.recordEnd fun ignorable members =>
          (ignorable && required.isEmpty, objectChecks cursor optional required members)
  | .enumeration _ =>
    .failed (.unsupportedShape (context.location cursor)
      "inline enum is not supported, move it to a definition and $ref it")
  | .reference pointer =>
    match context.table.resolve pointer with
    | .error fault => .failed fault
    | .ok entry =>
      let declaration := context.target.referencePieces entry.ident optional
      if context.target.dispatches && context.validated.contains entry.ident then
        .checked declaration [.dispatch entry.ident cursor]
      else .unchecked declaration
def memberEmissions (context : EmissionContext) (cursor : Cursor) (required : List String)
    (next : Nat) : List (String × TypeNode) → Emission
  | [] => .unchecked []
  | (name, node) :: rest =>
    let optional := !required.contains name
    let first := (context.emission (cursor.field name) optional next node).within
      (context.target.fieldStart name optional) (context.target.fieldEnd name optional)
      fun ignorable checks => (ignorable, checks)
    first.andThen (context.memberEmissions cursor required (next + first.patterns.length) rest)
end

end EmissionContext

end CheckedTypes
