import CheckedTypes.Proofs.ValidatorRun

namespace CheckedTypes

/-- What runs validators may differ in what it finds in values of other kinds than are asked for,
in what an object has besides its members, in how it matches patterns and in which elements of an
array it takes for the same. -/
structure Engine where
  /-- The part of a value of another kind, unless to look for it is an error. -/
  part : Json → ValueStep → Option (Option Json)
  /-- The number of elements of what is no array, unless to ask for it is an error. -/
  count : Json → Option Nat
  /-- Whether an array has a member of its own. -/
  owns : List Json → String → Bool
  /-- What an object has under a name that none of its members has. -/
  inherited : String → Option Json
  isMatch : (pattern text : String) → Bool
  distinct : List Json → Bool

/-- The place that a check looks at. -/
def Predicate.place : Predicate → Cursor
  | present cursor | member cursor _ | integer _ cursor _ | number _ cursor _ | length _ cursor _
  | pattern _ cursor _ | array _ cursor => cursor

/-- One run after another, unless the first stops. -/
def RunResult.andThen (first next : RunResult) : RunResult :=
  match first with
  | .error halt => .error halt
  | .ok _ => next

namespace Engine

/-- The part of a value at a step. Something that is missing and a null have none. -/
def partAt? (engine : Engine) : Option Json → ValueStep → Option (Option Json)
  | some (.object members), .key name => some ((members.lookup name).or (engine.inherited name))
  | some (.list elements), .index position => some elements[position]?
  | none, _ | some .null, _ => none
  | some value, step => engine.part value step

def length? (engine : Engine) : Option Json → Option Nat
  | some (.list elements) => some elements.length
  | none | some .null => none
  | some value => engine.count value

def value? (engine : Engine) (scope : Scope) (cursor : Cursor) : Option (Option Json) :=
  (scope.path? cursor).bind fun path => path.foldlM engine.partAt? (some scope.main)

def admits (engine : Engine) (constraints : ArrayConstraints) (elements : List Json) : Bool :=
  constraints.minItems.all (· ≤ elements.length) &&
    constraints.maxItems.all (elements.length ≤ ·) &&
    (!constraints.uniqueItems || engine.distinct elements)

/-- Whether a check lets pass what is at its place. -/
def accepts (engine : Engine) (patterns : List String) : Predicate → Option Json → Bool
  | .present _ => fun value => !tolerates (fun _ => false) value
  | .member _ name => fun
      | some (.object members) => (members.lookup name).isSome
      | some (.list elements) => engine.owns elements name
      | _ => false
  | .integer constraints _ _ => tolerates fun value =>
      (value.asBinary64?.filter Binary64.isIntegral).any constraints.admits
  | .number constraints _ _ => tolerates fun value => value.asBinary64?.any constraints.admits
  | .length constraints _ _ => tolerates fun value =>
      value.asString?.any constraints.admitsLength
  | .pattern index _ _ => tolerates fun value =>
      value.asString?.any fun text => patterns[index]?.any (engine.isMatch · text)
  | .array constraints _ => tolerates fun
      | .list elements => engine.admits constraints elements
      | _ => false

section

variable (engine : Engine) (call : String → Json → RunResult) (patterns : List String)

mutual
/-- Runs a statement; `call` is what calling another validator does. -/
def execute (scope : Scope) : Statement → RunResult
  | .failUnless predicate reason cursor =>
    orStray (engine.value? scope predicate.place) fun value =>
      if engine.accepts patterns predicate value then .ok ()
      else orStray (scope.path? cursor) fun path => .error (.thrown reason path)
  | .dispatch ident cursor =>
    orStray (engine.value? scope cursor) fun
      | none => .ok ()
      | some value => call ident value
  | .guarded cursor body =>
    orStray (engine.value? scope cursor) fun
      | none | some .null => .ok ()
      | some _ => executeAll scope body
  | .loop cursor body =>
    orStray ((engine.value? scope cursor).bind engine.length?) fun count =>
      eachPosition (fun position => executeAll (scope.enter cursor.level position) body) 0 count
  | .splice body => executeAll scope body
def executeAll (scope : Scope) : List Statement → RunResult
  | [] => .ok ()
  | statement :: rest => (execute scope statement).andThen (executeAll scope rest)
end

/-- Runs the validator of an item, if it has one. -/
def runItem (value : Json) : FileItem → RunResult
  | .enumeration _ values =>
    if tolerates (fun value => value.asString?.any values.contains) (some value) then .ok ()
    else .error (.thrown .enumeration [])
  | .type _ _ _ none => .ok ()
  | .type _ _ _ (some checks) => engine.executeAll call patterns { main := value } checks

end

/-- Runs the validator of an identifier, if there is one, with calls nested up to a depth. -/
def runValidator (engine : Engine) (items : List FileItem) :
    (depth : Nat) → String → Json → RunResult
  | 0, _, _ => .error .unfinished
  | depth + 1, ident, value =>
    match items.find? (·.ident == ident) with
    | none => .ok ()
    | some item =>
      engine.runItem (engine.runValidator items depth) (items.flatMap FileItem.patterns) value item

/-- The engine that takes anything for an error that validators do not rely on, and that goes by
what the check of instances accepts. -/
def strict : Engine where
  part _ _ := none
  count _ := none
  owns _ _ := false
  inherited _ := none
  isMatch pattern text := (Regex.ofText? pattern).any (·.isMatch text)
  distinct := allDistinct []

theorem strict_partAt? : strict.partAt? = Json.partAt? := by
  funext value step
  rcases value with _ | _ | _ | _ | _ | _ | _ <;> cases step <;>
    simp [partAt?, Json.partAt?, strict]

theorem strict_value? (scope : Scope) (cursor : Cursor) :
    strict.value? scope cursor = scope.value? cursor := by
  rw [value?, strict_partAt?, Scope.value?]

theorem strict_holds? (patterns : List String) (scope : Scope) (predicate : Predicate) :
    (strict.value? scope predicate.place).map (strict.accepts patterns predicate) =
      predicate.holds? patterns scope := by
  rw [strict_value?]
  cases predicate with
  | member object name =>
    refine congrArg (Option.map · _) (funext fun value => ?_)
    rcases value with _ | _ | _ | _ | _ | _ | _ <;> rfl
  | pattern index cursor optional =>
    refine congrArg (fun test => Option.map (tolerates test) _) (funext fun value => ?_)
    refine congrArg (value.asString?.any ·) (funext fun text => ?_)
    rw [Option.any_bind]
    rfl
  | _ => rfl

mutual
theorem strict_execute (call : String → Json → RunResult) (patterns : List String) (scope : Scope) :
    ∀ statement : Statement,
      strict.execute call patterns scope statement = statement.run call patterns scope
  | .failUnless predicate reason cursor => by
    rw [execute, Statement.run, ← strict_holds?]
    cases strict.value? scope predicate.place <;> rfl
  | .dispatch ident cursor => by
    rw [execute, Statement.run]
    exact congrArg₂ orStray (strict_value? scope cursor) rfl
  | .guarded cursor body => by
    rw [execute, Statement.run, strict_executeAll call patterns scope body]
    exact congrArg₂ orStray (strict_value? scope cursor) rfl
  | .loop cursor body => by
    have each : (fun position => strict.executeAll call patterns
        (scope.enter cursor.level position) body) =
          fun position => Statement.runAll call patterns (scope.enter cursor.level position) body :=
      funext fun position => strict_executeAll call patterns _ body
    rw [execute, Statement.run, strict_value?, each]
    rcases scope.value? cursor with _ | _ | _ | _ | _ | _ | _ | _ <;> rfl
  | .splice body => by
    rw [execute, Statement.run, strict_executeAll call patterns scope body]
theorem strict_executeAll (call : String → Json → RunResult) (patterns : List String)
    (scope : Scope) : ∀ statements : List Statement,
      strict.executeAll call patterns scope statements =
        Statement.runAll call patterns scope statements
  | [] => by rw [executeAll, Statement.runAll]
  | statement :: rest => by
    rw [executeAll, Statement.runAll, strict_execute call patterns scope statement,
      strict_executeAll call patterns scope rest]
    rfl
end

/-- Where only what validators rely on counts, they run as they are known to. -/
theorem strict_runValidator (items : List FileItem) (depth : Nat) :
    strict.runValidator items depth = CheckedTypes.runValidator items depth := by
  induction depth with
  | zero => rfl
  | succ depth ih =>
    funext ident value
    rw [runValidator, CheckedTypes.runValidator, ih]
    cases items.find? (·.ident == ident) with
    | none => rfl
    | some item =>
      cases item with
      | enumeration => rfl
      | type _ _ _ checks =>
        cases checks with
        | none => rfl
        | some checks => exact strict_executeAll _ _ _ checks

end Engine

end CheckedTypes
