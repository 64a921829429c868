import CheckedTypes.Proofs.CheckedParts
import CheckedTypes.Proofs.EngineChecks

namespace CheckedTypes

/-- A validator ends as the check of the value does: both let it pass, or both refuse it for the
same reason at the same place. -/
inductive Agrees : CheckResult → RunResult → Prop
  | passes : Agrees (.ok ()) (.ok ())
  | fails {reason path} : Agrees (.error (.violation reason path)) (.error (.thrown reason path))

theorem agrees_demand (condition : Bool) (reason : Reason) (path : List ValueStep) :
    Agrees (demand condition reason path)
      (if condition then .ok () else .error (.thrown reason path)) := by
  cases condition with
  | true => exact .passes
  | false => exact .fails

theorem Agrees.of_ok {result : CheckResult} {run : RunResult} (h : result = .ok ())
    (h' : run = .ok ()) : Agrees result run := by
  rw [h, h']
  exact .passes

theorem Agrees.andThen {first second : CheckResult} {run more : RunResult} :
    Agrees first run → (first = .ok () → Agrees second more) →
      Agrees
        (match first with
          | .error fault => .error fault
          | .ok _ => second)
        (match run with
          | .error halt => .error halt
          | .ok _ => more) := by
  intro h h'
  cases h with
  | passes => exact h' rfl
  | fails => exact .fails

theorem tolerates_of_ne_null {accepts : Json → Bool} {value : Json} (h : value ≠ .null) :
    tolerates accepts (some value) = accepts value := by
  cases value <;> first | rfl | exact absurd rfl h

namespace Statement

variable {call : String → Json → RunResult} {patterns : List String} {scope : Scope}
  {cursor : Cursor} {path : List ValueStep}

theorem runAll_append (checks more : List Statement) :
    runAll call patterns scope (checks ++ more) =
      match runAll call patterns scope checks with
      | .error halt => .error halt
      | .ok _ => runAll call patterns scope more := by
  simp only [← Engine.strict_executeAll]
  exact Engine.executeAll_append checks more

theorem runAll_singleton (statement : Statement) :
    runAll call patterns scope [statement] = statement.run call patterns scope := by
  rw [← Engine.strict_executeAll, ← Engine.strict_execute]
  exact Engine.executeAll_singleton statement

open EmissionContext

theorem run_failUnless {predicate : Predicate} {holds : Bool} {reason : Reason}
    (h : predicate.holds? patterns scope = some holds) (hp : scope.path? cursor = some path) :
    (failUnless predicate reason cursor).run call patterns scope =
      if holds then .ok () else .error (.thrown reason path) := by
  rw [run, h, hp]
  rfl

theorem runAll_loop {elements : List Json} (h : scope.Sees cursor path (some (.list elements)))
    (body : List Statement) :
    runAll call patterns scope (unlessEmpty (!body.isEmpty) (.loop cursor body)) =
      eachPosition (fun position =>
        runAll call patterns (scope.enter cursor.level position) body) 0 elements.length := by
  simp only [← Engine.strict_executeAll]
  exact Engine.executeAll_loop (Scope.sees_iff.mp h) body

theorem runAll_arrayChecks {elements : List Json} {optional : Bool}
    {constraints : ArrayConstraints} (h : scope.Sees cursor path (some (.list elements)))
    (inner : List Statement) :
    runAll call patterns scope (arrayChecks cursor optional constraints inner) =
      runAll call patterns scope
        (unlessEmpty (!constraints.isEmpty)
            (.failUnless (.array constraints cursor) .array cursor) ++
          unlessEmpty (!inner.isEmpty) (.loop cursor inner)) := by
  simp only [← Engine.strict_executeAll]
  exact Engine.executeAll_arrayChecks (Scope.sees_iff.mp h) inner

theorem runAll_objectChecks {members : List (String × Json)} {optional : Bool}
    (h : scope.Sees cursor path (some (.object members))) (required : List String)
    (checks : List Statement) :
    runAll call patterns scope (objectChecks cursor optional required checks) =
      runAll call patterns scope
        (required.map (fun name =>
            .failUnless (.member cursor name) .memberRequired (cursor.field name)) ++ checks) := by
  simp only [← Engine.strict_executeAll]
  exact Engine.executeAll_objectChecks (Scope.sees_iff.mp h) required checks

/-- The probes of an object find the first required member that is missing. -/
theorem runAll_probes {members : List (String × Json)}
    (h : scope.Sees cursor path (some (.object members))) (required : List String) :
    runAll call patterns scope (required.map fun name =>
        .failUnless (.member cursor name) .memberRequired (cursor.field name)) =
      match required.find? fun name => (members.lookup name).isNone with
      | some name => .error (.thrown .memberRequired (path ++ [.key name]))
      | none => .ok () := by
  induction required with
  | nil => rfl
  | cons name rest ih =>
    rw [List.map_cons, runAll, ← Engine.strict_execute,
      Engine.execute_probe (Scope.sees_iff.mp h), List.find?_cons]
    cases hl : members.lookup name with
    | none => rfl
    | some value => exact ih

end Statement

/-- A loop over the elements of an array ends as the check of the elements does. -/
theorem agrees_eachPosition {table : TypeTable} {items : TypeNode} {path : List ValueStep}
    {body : Nat → RunResult} {position : Nat} {elements : List Json}
    (h : ∀ index value, elements[index]? = some value →
      Agrees (checkValue table items (path ++ [.index (position + index)]) value)
        (body (position + index))) :
    Agrees (checkElements table items path position elements)
      (eachPosition body position elements.length) := by
  induction elements generalizing position with
  | nil => exact .passes
  | cons value rest ih =>
    rw [checkElements, List.length_cons, eachPosition]
    refine (h 0 value rfl).andThen fun _ => ih fun index value hv => ?_
    have := h (index + 1) value hv
    rwa [Nat.add_comm index, ← Nat.add_assoc] at this

theorem firstFailure_cons {results : List (String × CheckResult)} {name : String}
    {node : TypeNode} {rest : List (String × TypeNode)} :
    firstFailure results ((name, node) :: rest) =
      match (results.lookup name).getD (.ok ()) with
      | .error fault => .error fault
      | .ok _ => firstFailure results rest := by
  rw [firstFailure]
  cases results.lookup name with
  | none => rfl
  | some result => cases result <;> rfl

namespace EmissionContext

variable {context : EmissionContext} {cursor : Cursor} {next : Nat} {ignorable : Bool}
  {checks : List Statement} {used : List String} {call : String → Json → RunResult}
  {patterns : List String} {scope : Scope} {path : List ValueStep}

/-- A check that is left out where it would hold anyway. -/
theorem agrees_failUnless {condition holds : Bool} {predicate : Predicate} {reason : Reason}
    (h : predicate.holds? patterns scope = some holds) (hp : scope.path? cursor = some path)
    (left_out : condition = false → holds = true) :
    Agrees (demand holds reason path)
      (Statement.runAll call patterns scope
        (unlessEmpty condition (.failUnless predicate reason cursor))) := by
  cases condition with
  | false => exact .of_ok (by rw [demand, if_pos (left_out rfl)]) rfl
  | true =>
    rw [unlessEmpty, if_pos rfl, Statement.runAll_singleton, Statement.run_failUnless h hp]
    exact agrees_demand holds reason path

/-- What is emitted for a member that need not be there lets it be missing, and be null unless it is
a reference. -/
theorem Emits.skips {node : TypeNode} {value : Option Json}
    (h : context.Emits cursor true next node ignorable checks used)
    (hs : scope.Sees cursor path value)
    (hv : value = none ∨ value = some .null ∧ node.isReference = false) :
    Statement.runAll call patterns scope checks = .ok () := by
  have others (plain : node.isReference = false) :
      Statement.runAll call patterns scope checks = .ok () := by
    rw [← Engine.strict_executeAll]
    exact h.execute_missing plain (.inl rfl) (Scope.sees_iff.mp hs) (hv.imp_right And.left)
  cases node with
  | reference pointer =>
    have absent : value = none := by
      rcases hv with hv | ⟨-, hr⟩
      · exact hv
      · cases hr
    obtain ⟨entry, -, -, hc⟩ := h.reference
    split at hc
    next =>
      rw [hc.2, Statement.runAll_singleton, Statement.run, hs.value_eq, absent]
      rfl
    next =>
      rw [hc.2]
      rfl
  | _ => exact others rfl

end EmissionContext

end CheckedTypes
