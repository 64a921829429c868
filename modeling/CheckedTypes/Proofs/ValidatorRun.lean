import CheckedTypes.Proofs.FileItem
import CheckedTypes.InstanceCheck

namespace CheckedTypes

/-- Why a validator stops before its end: it gives up on the value, it looks for a part of something
that has none, or calls of validators are nested deeper than allowed. -/
inductive Halt where
  | thrown (reason : Reason) (path : List ValueStep)
  | stray
  | unfinished

abbrev RunResult := Except Halt Unit

/-- What a validator sees: the value it is called with and the counters of the loops it is in. -/
structure Scope where
  main : Json
  counter : Nat → Option Nat := fun _ => none

/-- The part of a value at a step, which is `none` if it is missing there. -/
def Json.partAt? : Option Json → ValueStep → Option (Option Json)
  | some (.object members), .key name => some (members.lookup name)
  | some (.list elements), .index position => some elements[position]?
  | _, _ => none

namespace Scope

def enter (scope : Scope) (level position : Nat) : Scope :=
  { scope with
    counter := fun other => if other = level then some position else scope.counter other }

def step? (scope : Scope) : RawSegment → Option ValueStep
  | .key name => some (.key name)
  | .index level => (scope.counter level).map .index

/-- The path of a place, which errors are thrown with. -/
def path? (scope : Scope) (cursor : Cursor) : Option (List ValueStep) :=
  cursor.raw.mapM scope.step?

/-- The value that the expression of a place has. -/
def value? (scope : Scope) (cursor : Cursor) : Option (Option Json) :=
  (scope.path? cursor).bind fun path => path.foldlM Json.partAt? (some scope.main)

end Scope

/-- A check of the support text: it lets a missing value and a null pass. -/
def tolerates (accepts : Json → Bool) : Option Json → Bool
  | none | some .null => true
  | some value => accepts value

/-- Whether a check of a validator holds. What it accepts is what the check of instances accepts. -/
def Predicate.holds? (patterns : List String) (scope : Scope) : Predicate → Option Bool
  | present cursor => (scope.value? cursor).map fun value => !tolerates (fun _ => false) value
  | member object name =>
    (scope.value? object).map fun
      | some (.object members) => (members.lookup name).isSome
      | _ => false
  | integer constraints cursor _ =>
    (scope.value? cursor).map <| tolerates fun value =>
      (value.asBinary64?.filter Binary64.isIntegral).any constraints.admits
  | number constraints cursor _ =>
    (scope.value? cursor).map <| tolerates fun value => value.asBinary64?.any constraints.admits
  | length constraints cursor _ =>
    (scope.value? cursor).map <| tolerates fun value =>
      value.asString?.any constraints.admitsLength
  | pattern index cursor _ =>
    (scope.value? cursor).map <| tolerates fun value =>
      value.asString?.any fun text =>
        (patterns[index]?.bind Regex.ofText?).any (·.isMatch text)
  | array constraints cursor =>
    (scope.value? cursor).map <| tolerates fun
      | .list elements => constraints.admits elements
      | _ => false

/-- Goes on with a value that is there. -/
def orStray {α : Type} (value : Option α) (next : α → RunResult) : RunResult :=
  match value with
  | none => .error .stray
  | some value => next value

/-- One run for each of so many positions, up to the first that stops. -/
def eachPosition (body : Nat → RunResult) : (position count : Nat) → RunResult
  | _, 0 => .ok ()
  | position, count + 1 =>
    match body position with
    | .error halt => .error halt
    | .ok _ => eachPosition body (position + 1) count

section

variable (call : String → Json → RunResult) (patterns : List String)

mutual
/-- Runs a statement; `call` is what calling another validator does. -/
def Statement.run (scope : Scope) : Statement → RunResult
  | .failUnless predicate reason cursor =>
    orStray (predicate.holds? patterns scope) fun holds =>
      if holds then .ok ()
      else orStray (scope.path? cursor) fun path => .error (.thrown reason path)
  | .dispatch ident cursor =>
    orStray (scope.value? cursor) fun
      | none => .ok ()
      | some value => call ident value
  | .guarded cursor body =>
    orStray (scope.value? cursor) fun
      | none | some .null => .ok ()
      | some _ => runAll scope body
  | .loop cursor body =>
    orStray (scope.value? cursor) fun
      | some (.list elements) =>
        eachPosition (fun position => runAll (scope.enter cursor.level position) body) 0
          elements.length
      | _ => .error .stray
  | .splice body => runAll scope body
def Statement.runAll (scope : Scope) : List Statement → RunResult
  | [] => .ok ()
  | statement :: rest =>
    match statement.run scope with
    | .error halt => .error halt
    | .ok _ => runAll scope rest
end

/-- Runs the validator of an item, if it has one. -/
def FileItem.run (value : Json) : FileItem → RunResult
  | .enumeration _ values =>
    if tolerates (fun value => value.asString?.any values.contains) (some value) then .ok ()
    else .error (.thrown .enumeration [])
  | .type _ _ _ none => .ok ()
  | .type _ _ _ (some checks) => Statement.runAll call patterns { main := value } checks

end

/-- Runs the validator of an identifier, if there is one, with calls nested up to a depth. -/
def runValidator (items : List FileItem) : (depth : Nat) → String → Json → RunResult
  | 0, _, _ => .error .unfinished
  | depth + 1, ident, value =>
    match items.find? (·.ident == ident) with
    | none => .ok ()
    | some item => item.run (runValidator items depth) (items.flatMap FileItem.patterns) value

/-- Runs that end are the same with other calls. -/
def Extends (call more : String → Json → RunResult) : Prop :=
  ∀ ident value, call ident value ≠ .error .unfinished → more ident value = call ident value

theorem eachPosition_extends {body more : Nat → RunResult}
    (h : ∀ position, body position ≠ .error .unfinished → more position = body position)
    {position count : Nat} (hne : eachPosition body position count ≠ .error .unfinished) :
    eachPosition more position count = eachPosition body position count := by
  induction count generalizing position with
  | zero => rfl
  | succ count ih =>
    rw [eachPosition] at hne ⊢
    rw [eachPosition]
    cases hb : body position with
    | error halt =>
      rw [hb] at hne
      have := h position (by rwa [hb])
      rw [this, hb]
    | ok =>
      rw [hb] at hne
      rw [h position (by simp [hb]), hb]
      exact ih hne

theorem orStray_extends {α : Type} {value : Option α} {next more : α → RunResult}
    (h : ∀ value, next value ≠ .error .unfinished → more value = next value)
    (hne : orStray value next ≠ .error .unfinished) : orStray value more = orStray value next := by
  cases value with
  | none => rfl
  | some value => exact h value hne

mutual
theorem Statement.run_extends {call more : String → Json → RunResult} (h : Extends call more)
    (patterns : List String) (scope : Scope) : ∀ statement : Statement,
      statement.run call patterns scope ≠ .error .unfinished →
        statement.run more patterns scope = statement.run call patterns scope
  | .failUnless .., _ => rfl
  | .dispatch ident cursor, hne => by
    rw [run] at hne ⊢
    rw [run]
    refine orStray_extends (fun value hne => ?_) hne
    cases value with
    | none => rfl
    | some value => exact h ident value hne
  | .guarded cursor body, hne => by
    rw [run] at hne ⊢
    rw [run]
    refine orStray_extends (fun value hne => ?_) hne
    split at hne
    next => rfl
    next => rfl
    next => exact runAll_extends h patterns scope body hne
  | .loop cursor body, hne => by
    rw [run] at hne ⊢
    rw [run]
    refine orStray_extends (fun value hne => ?_) hne
    split at hne
    next elements =>
      exact eachPosition_extends (fun position => runAll_extends h patterns _ body) hne
    next => rfl
  | .splice body, hne => by
    rw [run] at hne ⊢
    rw [run]
    exact runAll_extends h patterns scope body hne
theorem Statement.runAll_extends {call more : String → Json → RunResult} (h : Extends call more)
    (patterns : List String) (scope : Scope) : ∀ statements : List Statement,
      runAll call patterns scope statements ≠ .error .unfinished →
        runAll more patterns scope statements = runAll call patterns scope statements
  | [], _ => rfl
  | statement :: rest, hne => by
    rw [runAll] at hne ⊢
    rw [runAll]
    have first := run_extends h patterns scope statement
    cases hs : statement.run call patterns scope with
    | error halt =>
      rw [hs] at hne first
      rw [first (by simpa using hne)]
    | ok =>
      rw [hs] at hne first
      rw [first (by simp)]
      exact runAll_extends h patterns scope rest hne
end

/-- A run that ends takes no more notice of how deep calls may be nested. -/
theorem runValidator_extends (items : List FileItem) {depth more : Nat} (le : depth ≤ more) :
    Extends (runValidator items depth) (runValidator items more) := by
  induction depth generalizing more with
  | zero =>
    intro ident value hne
    exact absurd rfl hne
  | succ depth ih =>
    obtain ⟨more, rfl⟩ : ∃ n, more = n + 1 := ⟨more - 1, by omega⟩
    intro ident value hne
    rw [runValidator] at hne ⊢
    rw [runValidator]
    split at hne
    next => rfl
    next item _ =>
      cases item with
      | enumeration => rfl
      | type _ _ _ checks =>
        cases checks with
        | none => rfl
        | some checks => exact Statement.runAll_extends (ih (by omega)) _ _ checks hne

/-- The validator of an identifier gives up on a value. -/
def Throws (items : List FileItem) (ident : String) (value : Json) (reason : Reason)
    (path : List ValueStep) : Prop :=
  ∃ depth, runValidator items depth ident value = .error (.thrown reason path)

/-- The validator of an identifier lets a value pass. -/
def Completes (items : List FileItem) (ident : String) (value : Json) : Prop :=
  ∃ depth, runValidator items depth ident value = .ok ()

end CheckedTypes
