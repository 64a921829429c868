import CheckedTypes.Proofs.EnginePlace

namespace CheckedTypes

theorem eachPosition_nothing (position count : Nat) :
    eachPosition (fun _ => .ok ()) position count = .ok () := by
  induction count generalizing position with
  | zero => rfl
  | succ count ih => exact ih (position + 1)

theorem RunResult.andThen_eq_ok {first next : RunResult} (h : first.andThen next = .ok ()) :
    first = .ok () ∧ next = .ok () := by
  cases first with
  | error halt => cases h
  | ok => exact ⟨rfl, h⟩

namespace Engine

open EmissionContext

section

variable {engine : Engine} {call : String → Json → RunResult} {patterns : List String}
  {scope other : Scope} {cursor : Cursor} {path : List ValueStep}

theorem executeAll_append (checks more : List Statement) :
    engine.executeAll call patterns scope (checks ++ more) =
      (engine.executeAll call patterns scope checks).andThen
        (engine.executeAll call patterns scope more) := by
  induction checks with
  | nil => rw [List.nil_append, executeAll]; rfl
  | cons statement rest ih =>
    rw [List.cons_append, executeAll, executeAll, ih]
    cases engine.execute call patterns scope statement <;> rfl

theorem executeAll_singleton (statement : Statement) :
    engine.executeAll call patterns scope [statement] =
      engine.execute call patterns scope statement := by
  rw [executeAll, executeAll]
  cases engine.execute call patterns scope statement <;> rfl

/-- A body that does nothing can be left out. -/
theorem executeAll_unlessEmpty (body : List Statement) {wrap : List Statement → Statement}
    (h : engine.execute call patterns scope (wrap body) =
      engine.executeAll call patterns scope body) :
    engine.executeAll call patterns scope (unlessEmpty (!body.isEmpty) (wrap body)) =
      engine.executeAll call patterns scope body := by
  cases body with
  | nil => rfl
  | cons => exact (executeAll_singleton _).trans h

theorem execute_guarded_missing {value : Option Json} (h : engine.Sees scope cursor path value)
    (hv : value = none ∨ value = some .null) (body : List Statement) :
    engine.execute call patterns scope (.guarded cursor body) = .ok () := by
  rw [execute, h.value_eq]
  rcases hv with rfl | rfl <;> rfl

theorem execute_guarded_present {value : Json} (h : engine.Sees scope cursor path (some value))
    (hv : value ≠ .null) (body : List Statement) :
    engine.execute call patterns scope (.guarded cursor body) =
      engine.executeAll call patterns scope body := by
  rw [execute, h.value_eq]
  cases value <;> first | rfl | exact absurd rfl hv

theorem executeAll_objectChecks_required (required : List String) (checks : List Statement) :
    engine.executeAll call patterns scope (objectChecks cursor false required checks) =
      engine.executeAll call patterns scope
        (required.map (fun name =>
            .failUnless (.member cursor name) .memberRequired (cursor.field name)) ++ checks) :=
  executeAll_unlessEmpty _ (by rw [execute])

theorem executeAll_objectChecks {members : List (String × Json)} {optional : Bool}
    (h : engine.Sees scope cursor path (some (.object members))) (required : List String)
    (checks : List Statement) :
    engine.executeAll call patterns scope (objectChecks cursor optional required checks) =
      engine.executeAll call patterns scope
        (required.map (fun name =>
            .failUnless (.member cursor name) .memberRequired (cursor.field name)) ++ checks) := by
  cases optional with
  | true => exact executeAll_unlessEmpty _ (execute_guarded_present h (by simp) _)
  | false => exact executeAll_objectChecks_required required checks

/-- An array that is there passes the guard or the check that it is there. -/
theorem executeAll_arrayChecks {elements : List Json} {optional : Bool}
    {constraints : ArrayConstraints}
    (h : engine.Sees scope cursor path (some (.list elements))) (inner : List Statement) :
    engine.executeAll call patterns scope (arrayChecks cursor optional constraints inner) =
      engine.executeAll call patterns scope
        (unlessEmpty (!constraints.isEmpty)
            (.failUnless (.array constraints cursor) .array cursor) ++
          unlessEmpty (!inner.isEmpty) (.loop cursor inner)) := by
  unfold arrayChecks
  cases optional with
  | true => exact executeAll_unlessEmpty _ (execute_guarded_present h (by simp) _)
  | false =>
    have present : engine.execute call patterns scope
        (.failUnless (.present cursor) .arrayPresent cursor) = .ok () := by
      rw [execute, Predicate.place, h.value_eq]
      rfl
    rw [if_neg (by simp), executeAll, present]
    exact executeAll_unlessEmpty _ (by rw [execute])

theorem execute_loop {elements : List Json}
    (h : engine.Sees scope cursor path (some (.list elements))) (body : List Statement) :
    engine.execute call patterns scope (.loop cursor body) =
      eachPosition (fun position =>
        engine.executeAll call patterns (scope.enter cursor.level position) body) 0
          elements.length := by
  rw [execute, h.value_eq]
  rfl

/-- A loop that does nothing can be left out. -/
theorem executeAll_loop {elements : List Json}
    (h : engine.Sees scope cursor path (some (.list elements))) (body : List Statement) :
    engine.executeAll call patterns scope (unlessEmpty (!body.isEmpty) (.loop cursor body)) =
      eachPosition (fun position =>
        engine.executeAll call patterns (scope.enter cursor.level position) body) 0
          elements.length := by
  cases body with
  | nil => exact (eachPosition_nothing 0 elements.length).symm
  | cons => exact (executeAll_singleton _).trans (execute_loop h _)

theorem execute_failUnless {predicate : Predicate} {reason : Reason} {value : Option Json}
    (looked : engine.value? scope predicate.place = some value)
    (named : scope.path? cursor = some path) :
    engine.execute call patterns scope (.failUnless predicate reason cursor) =
      if engine.accepts patterns predicate value then .ok ()
      else .error (.thrown reason path) := by
  rw [execute, looked, named]
  rfl

/-- The probe of an object looks for a member. -/
theorem execute_probe {members : List (String × Json)}
    (h : engine.Sees scope cursor path (some (.object members))) (name : String) :
    engine.execute call patterns scope
        (.failUnless (.member cursor name) .memberRequired (cursor.field name)) =
      if (members.lookup name).isSome then .ok ()
      else .error (.thrown .memberRequired (path ++ [.key name])) := by
  rw [execute_failUnless h.value_eq (h.field name).path_eq]
  rfl

/-! Validators that see the same at a place do the same there. -/

theorem execute_failUnless_congr {predicate : Predicate} {reason : Reason}
    (looked : engine.value? scope predicate.place = engine.value? other predicate.place)
    (named : scope.path? cursor = other.path? cursor) :
    engine.execute call patterns scope (.failUnless predicate reason cursor) =
      engine.execute call patterns other (.failUnless predicate reason cursor) := by
  rw [execute, execute, looked, named]

theorem executeAll_unlessEmpty_congr {condition : Bool} {statement : Statement}
    (h : engine.execute call patterns scope statement =
      engine.execute call patterns other statement) :
    engine.executeAll call patterns scope (unlessEmpty condition statement) =
      engine.executeAll call patterns other (unlessEmpty condition statement) := by
  cases condition with
  | false => rfl
  | true => exact (executeAll_singleton _).trans (h.trans (executeAll_singleton _).symm)

theorem executeAll_append_congr {checks more : List Statement}
    (first : engine.executeAll call patterns scope checks =
      engine.executeAll call patterns other checks)
    (next : engine.executeAll call patterns scope more =
      engine.executeAll call patterns other more) :
    engine.executeAll call patterns scope (checks ++ more) =
      engine.executeAll call patterns other (checks ++ more) := by
  rw [executeAll_append, executeAll_append, first, next]

theorem execute_guarded_congr (alike : engine.Alike scope other cursor) {body : List Statement}
    (h : engine.executeAll call patterns scope body =
      engine.executeAll call patterns other body) :
    engine.execute call patterns scope (.guarded cursor body) =
      engine.execute call patterns other (.guarded cursor body) := by
  rw [execute, execute, alike.value_eq, h]

theorem execute_loop_congr (alike : engine.Alike scope other cursor) {body : List Statement}
    (h : ∀ position,
      engine.executeAll call patterns (scope.enter cursor.level position) body =
        engine.executeAll call patterns (other.enter cursor.level position) body) :
    engine.execute call patterns scope (.loop cursor body) =
      engine.execute call patterns other (.loop cursor body) := by
  rw [execute, execute, alike.value_eq, funext h]

theorem executeAll_probes_congr (required : List String)
    (h : ∀ name ∈ required,
      engine.execute call patterns scope
          (.failUnless (.member cursor name) .memberRequired (cursor.field name)) =
        engine.execute call patterns other
          (.failUnless (.member cursor name) .memberRequired (cursor.field name))) :
    engine.executeAll call patterns scope (required.map fun name =>
        .failUnless (.member cursor name) .memberRequired (cursor.field name)) =
      engine.executeAll call patterns other (required.map fun name =>
        .failUnless (.member cursor name) .memberRequired (cursor.field name)) := by
  induction required with
  | nil => rfl
  | cons name rest ih =>
    obtain ⟨first, others⟩ := List.forall_mem_cons.mp h
    rw [List.map_cons, executeAll, executeAll, first, ih others]

theorem executeAll_arrayChecks_congr (alike : engine.Alike scope other cursor) {optional : Bool}
    {constraints : ArrayConstraints} {inner : List Statement}
    (h : ∀ position,
      engine.executeAll call patterns (scope.enter cursor.level position) inner =
        engine.executeAll call patterns (other.enter cursor.level position) inner) :
    engine.executeAll call patterns scope (arrayChecks cursor optional constraints inner) =
      engine.executeAll call patterns other (arrayChecks cursor optional constraints inner) := by
  have body : engine.executeAll call patterns scope
      (unlessEmpty (!constraints.isEmpty) (.failUnless (.array constraints cursor) .array cursor) ++
        unlessEmpty (!inner.isEmpty) (.loop cursor inner)) =
      engine.executeAll call patterns other
        (unlessEmpty (!constraints.isEmpty)
            (.failUnless (.array constraints cursor) .array cursor) ++
          unlessEmpty (!inner.isEmpty) (.loop cursor inner)) :=
    executeAll_append_congr
      (executeAll_unlessEmpty_congr (execute_failUnless_congr alike.value_eq alike.path_eq))
      (executeAll_unlessEmpty_congr (execute_loop_congr alike h))
  unfold arrayChecks
  cases optional with
  | true => exact executeAll_unlessEmpty_congr (execute_guarded_congr alike body)
  | false =>
    have present : engine.execute call patterns scope
          (.failUnless (.present cursor) .arrayPresent cursor) =
        engine.execute call patterns other (.failUnless (.present cursor) .arrayPresent cursor) :=
      execute_failUnless_congr alike.value_eq alike.path_eq
    rw [if_neg (by simp), executeAll, executeAll, present]
    refine congrArg _ (executeAll_unlessEmpty_congr ?_)
    rw [execute, execute, body]

theorem executeAll_objectChecks_congr (alike : engine.Alike scope other cursor) {optional : Bool}
    {required : List String} {members : List Statement}
    (h : engine.executeAll call patterns scope members =
      engine.executeAll call patterns other members) :
    engine.executeAll call patterns scope (objectChecks cursor optional required members) =
      engine.executeAll call patterns other (objectChecks cursor optional required members) := by
  have body := executeAll_append_congr (executeAll_probes_congr required
    fun name _ => execute_failUnless_congr alike.value_eq (alike.field name).path_eq) h
  unfold objectChecks
  cases optional with
  | true => exact executeAll_unlessEmpty_congr (execute_guarded_congr alike body)
  | false =>
    refine executeAll_unlessEmpty_congr ?_
    rw [if_neg (by simp), execute, execute, body]

end

end Engine

namespace EmissionContext

open Engine

variable {context : EmissionContext} {cursor : Cursor} {optional : Bool} {next : Nat}
  {ignorable : Bool} {checks : List Statement} {used : List String} {engine : Engine}
  {call : String → Json → RunResult} {patterns : List String} {scope other : Scope}

theorem EmitsMembers.execute_congr {required : List String}
    {properties : List (String × TypeNode)}
    (h : context.EmitsMembers cursor required next properties ignorable checks used)
    (each : ∀ name node, (name, node) ∈ properties → ∀ {next a others used},
      context.Emits (cursor.field name) (!required.contains name) next node a others used →
        engine.executeAll call patterns scope others =
          engine.executeAll call patterns other others) :
    engine.executeAll call patterns scope checks =
      engine.executeAll call patterns other checks :=
  h.closed rfl executeAll_append_congr each

/-- The checks of a type look at nothing but its place and what is below it. -/
theorem Emits.execute_congr {node : TypeNode}
    (h : context.Emits cursor optional next node ignorable checks used)
    (alike : engine.Alike scope other cursor) :
    engine.executeAll call patterns scope checks =
      engine.executeAll call patterns other checks := by
  induction node generalizing cursor optional next ignorable checks used scope other with
  | null => rw [h.null.2.1]; rfl
  | boolean => rw [h.boolean.2.1]; rfl
  | integer =>
    rw [h.integer.2.2]
    exact executeAll_unlessEmpty_congr (execute_failUnless_congr alike.value_eq alike.path_eq)
  | number =>
    rw [h.number.2.2]
    exact executeAll_unlessEmpty_congr (execute_failUnless_congr alike.value_eq alike.path_eq)
  | string =>
    rw [h.string.2.2]
    exact executeAll_append_congr
      (executeAll_unlessEmpty_congr (execute_failUnless_congr alike.value_eq alike.path_eq))
      (executeAll_unlessEmpty_congr (execute_failUnless_congr alike.value_eq alike.path_eq))
  | bareArray => exact absurd h not_emits_bareArray
  | array items additionalItems constraints ih =>
    obtain ⟨-, a, elements, hi, -, rfl⟩ := h.array
    exact executeAll_arrayChecks_congr alike fun position => ih hi (alike.element position)
  | object properties required ih =>
    obtain ⟨-, a, members, hm, -, rfl⟩ := h.object
    have perm := sortByName_perm properties
    exact executeAll_objectChecks_congr alike <| hm.execute_congr
      fun name node hn _ _ _ _ he => ih name node (perm.subset hn) he (alike.field name)
  | enumeration => exact absurd h not_emits_enumeration
  | reference pointer =>
    obtain ⟨entry, -, -, hc⟩ := h.reference
    split at hc
    next =>
      rw [hc.2, executeAll_singleton, executeAll_singleton, execute, execute, alike.value_eq]
    next => rw [hc.2]; rfl

/-- What is emitted for a member that need not be there lets it be missing or null, and a check of
the support text does so everywhere. -/
theorem Emits.execute_missing {node : TypeNode} {value : Option Json}
    (h : context.Emits cursor optional next node ignorable checks used)
    (plain : node.isReference = false) (loose : optional = true ∨ node.isComposite = false)
    (hs : engine.Sees scope cursor path value) (hv : value = none ∨ value = some .null) :
    engine.executeAll call patterns scope checks = .ok () := by
  have passes {condition : Bool} {predicate : Predicate} {reason : Reason}
      (hp : predicate.place = cursor) (accepted : engine.accepts patterns predicate value = true) :
      engine.executeAll call patterns scope
        (unlessEmpty condition (.failUnless predicate reason cursor)) = .ok () := by
    cases condition with
    | false => rfl
    | true =>
      refine (executeAll_singleton _).trans ?_
      rw [execute, hp, hs.value_eq]
      exact if_pos accepted
  have guarded : ∀ body : List Statement, engine.executeAll call patterns scope
      (unlessEmpty (!body.isEmpty) (.guarded cursor body)) = .ok () := by
    intro body
    unfold unlessEmpty
    split
    · exact (executeAll_singleton _).trans (execute_guarded_missing hs hv body)
    · rfl
  cases node with
  | null => rw [h.null.2.1]; rfl
  | boolean => rw [h.boolean.2.1]; rfl
  | integer =>
    rw [h.integer.2.2]
    exact passes rfl (by rcases hv with rfl | rfl <;> rfl)
  | number =>
    rw [h.number.2.2]
    exact passes rfl (by rcases hv with rfl | rfl <;> rfl)
  | string =>
    rw [h.string.2.2, executeAll_append,
      passes rfl (by rcases hv with rfl | rfl <;> rfl)]
    exact passes rfl (by rcases hv with rfl | rfl <;> rfl)
  | array items =>
    cases items with
    | none => exact absurd h not_emits_bareArray
    | some items =>
      obtain ⟨-, a, elements, -, -, rfl⟩ := h.array
      rw [loose.resolve_right (by simp [TypeNode.isComposite])]
      exact guarded _
  | object =>
    obtain ⟨-, a, members, -, -, rfl⟩ := h.object
    rw [loose.resolve_right (by simp [TypeNode.isComposite])]
    exact guarded _
  | enumeration => exact absurd h not_emits_enumeration
  | reference => cases plain

end EmissionContext

end CheckedTypes
