import CheckedTypes.Proofs.Ignorability

namespace CheckedTypes

mutual
/-- The references in a type, each with its place. -/
def TypeNode.references (cursor : Cursor) : TypeNode → List (String × Cursor)
  | .array (some items) _ _ => items.references cursor.element
  | .object properties _ => propertyReferences cursor properties
  | .reference pointer => [(pointer, cursor)]
  | _ => []
def TypeNode.propertyReferences (cursor : Cursor) :
    List (String × TypeNode) → List (String × Cursor)
  | [] => []
  | (name, node) :: rest => node.references (cursor.field name) ++ propertyReferences cursor rest
end

mutual
/-- The calls of other validators, each with the place of the value that is handed over. -/
def Statement.dispatches : Statement → List (String × Cursor)
  | .failUnless .. => []
  | .dispatch ident cursor => [(ident, cursor)]
  | .guarded _ body => dispatchesAll body
  | .loop _ body => dispatchesAll body
  | .splice body => dispatchesAll body
def Statement.dispatchesAll : List Statement → List (String × Cursor)
  | [] => []
  | statement :: rest => statement.dispatches ++ dispatchesAll rest
end

namespace Statement

@[simp] theorem dispatchesAll_append (checks more : List Statement) :
    dispatchesAll (checks ++ more) = dispatchesAll checks ++ dispatchesAll more := by
  induction checks with
  | nil => rfl
  | cons statement rest ih => simp [dispatchesAll, ih]

end Statement

theorem TypeNode.propertyReferences_eq (cursor : Cursor) (properties : List (String × TypeNode)) :
    propertyReferences cursor properties =
      properties.flatMap fun property => property.2.references (cursor.field property.1) := by
  induction properties with
  | nil => rfl
  | cons property rest ih =>
    obtain ⟨name, node⟩ := property
    rw [propertyReferences, ih, List.flatMap_cons]

theorem TypeNode.within_of_mem_references {node : TypeNode} {cursor place : Cursor}
    {pointer : String} (h : (pointer, place) ∈ node.references cursor) :
    (reference pointer).Within node := by
  induction node generalizing cursor with
  | array items additionalItems constraints ih => exact .items (ih h)
  | object properties required ih =>
    rw [references, propertyReferences_eq] at h
    obtain ⟨⟨name, node⟩, hm, hp⟩ := List.mem_flatMap.mp h
    exact .property hm (ih name node hm hp)
  | reference other =>
    cases List.mem_singleton.mp h
    exact .here
  | _ => simp [references] at h

namespace EmissionContext

open Statement

variable {context : EmissionContext} {cursor : Cursor} {optional : Bool} {next : Nat}
  {ignorable : Bool} {checks : List Statement} {patterns : List String}

/-- The validator that a reference calls, if the type that it leads to has one. -/
def dispatched? (context : EmissionContext) (reference : String × Cursor) :
    Option (String × Cursor) :=
  match context.table.resolve reference.1 with
  | .ok entry =>
    if context.target.dispatches ∧ entry.ident ∈ context.validated then
      some (entry.ident, reference.2)
    else none
  | .error _ => none

theorem dispatchesAll_unlessEmpty_failUnless (condition : Bool) (predicate : Predicate)
    (reason : Reason) (cursor : Cursor) :
    dispatchesAll (unlessEmpty condition (.failUnless predicate reason cursor)) = [] := by
  cases condition <;> rfl

/-- Leaving out an empty body leaves out no call. -/
theorem dispatchesAll_unlessEmpty (body : List Statement) {wrap : List Statement → Statement}
    (h : (wrap body).dispatches = dispatchesAll body) :
    dispatchesAll (unlessEmpty (!body.isEmpty) (wrap body)) = dispatchesAll body := by
  cases body with
  | nil => rfl
  | cons => simp [unlessEmpty, dispatchesAll, h]

theorem dispatchesAll_arrayChecks (constraints : ArrayConstraints) (elements : List Statement) :
    dispatchesAll (arrayChecks cursor optional constraints elements) = dispatchesAll elements := by
  unfold arrayChecks
  cases optional with
  | true =>
    rw [if_pos rfl, dispatchesAll_unlessEmpty _ (by rw [dispatches]), dispatchesAll_append,
      dispatchesAll_unlessEmpty_failUnless, dispatchesAll_unlessEmpty _ (by rw [dispatches])]
    rfl
  | false =>
    rw [if_neg (by simp), dispatchesAll, dispatchesAll_unlessEmpty _ (by rw [dispatches]),
      dispatchesAll_append, dispatchesAll_unlessEmpty_failUnless,
      dispatchesAll_unlessEmpty _ (by rw [dispatches])]
    rfl

theorem dispatchesAll_objectChecks (required : List String) (members : List Statement) :
    dispatchesAll (objectChecks cursor optional required members) = dispatchesAll members := by
  have probes : dispatchesAll (required.map fun name =>
      Statement.failUnless (.member cursor name) .memberRequired (cursor.field name)) = [] := by
    induction required with
    | nil => rfl
    | cons name rest ih => simpa [dispatchesAll, dispatches] using ih
  unfold objectChecks
  cases optional with
  | true =>
    simp only [if_true]
    rw [dispatchesAll_unlessEmpty _ (by rw [dispatches]), dispatchesAll_append, probes]
    rfl
  | false =>
    simp only [Bool.false_eq_true, if_false]
    rw [dispatchesAll_unlessEmpty _ (by rw [dispatches]), dispatchesAll_append, probes]
    rfl

theorem EmitsMembers.dispatches {required : List String} {properties : List (String × TypeNode)}
    (h : context.EmitsMembers cursor required next properties ignorable checks patterns)
    (each : ∀ name node, (name, node) ∈ properties → ∀ cursor optional next a others used,
      context.Emits cursor optional next node a others used →
        (dispatchesAll others).Perm ((node.references cursor).filterMap context.dispatched?)) :
    (dispatchesAll checks).Perm ((TypeNode.propertyReferences cursor properties).filterMap
      context.dispatched?) := by
  induction h with
  | nil => exact .refl _
  | cons first _ ih =>
    rw [dispatchesAll_append, TypeNode.propertyReferences, List.filterMap_append]
    exact (each _ _ List.mem_cons_self _ _ _ _ _ _ first).append
      (ih fun other part hm => each other part (List.mem_cons_of_mem _ hm))

/-- Each reference to a type with a validator is one call of that validator, at the place of the
reference, and there are no other calls. -/
theorem Emits.dispatches
    (h : context.Emits cursor optional next node ignorable checks patterns) :
    (dispatchesAll checks).Perm ((node.references cursor).filterMap context.dispatched?) := by
  induction node generalizing cursor optional next ignorable checks patterns with
  | null => simp [h.null, dispatchesAll, TypeNode.references]
  | boolean => simp [h.boolean, dispatchesAll, TypeNode.references]
  | integer =>
    rw [h.integer.2.2, dispatchesAll_unlessEmpty_failUnless]
    exact .refl _
  | number =>
    rw [h.number.2.2, dispatchesAll_unlessEmpty_failUnless]
    exact .refl _
  | string =>
    rw [h.string.2.2, dispatchesAll_append, dispatchesAll_unlessEmpty_failUnless,
      dispatchesAll_unlessEmpty_failUnless]
    exact .refl _
  | bareArray => exact absurd h not_emits_bareArray
  | array items additionalItems constraints ih =>
    obtain ⟨-, a, elements, hi, -, rfl⟩ := h.array
    rw [dispatchesAll_arrayChecks, TypeNode.references]
    exact ih hi
  | object properties required ih =>
    obtain ⟨-, a, members, hm, -, rfl⟩ := h.object
    have perm := sortByName_perm properties
    rw [dispatchesAll_objectChecks, TypeNode.references]
    refine (hm.dispatches fun name node hn _ _ _ _ _ _ => ih name node (perm.subset hn)).trans ?_
    rw [TypeNode.propertyReferences_eq, TypeNode.propertyReferences_eq]
    exact (perm.flatMap_right _).filterMap _
  | enumeration => exact absurd h not_emits_enumeration
  | reference pointer =>
    obtain ⟨entry, hr, -, hc⟩ := h.reference
    simp only [TypeNode.references, List.filterMap_cons, List.filterMap_nil, dispatched?, hr]
    split at hc
    next hv => simp [hc.2, hv, dispatchesAll, Statement.dispatches]
    next hv => simp [hc.2, hv, dispatchesAll]

/-- A type that needs no checks calls no validator. -/
theorem Emits.dispatches_of_ignorable
    (h : context.Emits cursor optional next node true checks patterns) :
    dispatchesAll checks = [] := by
  have none_called : (node.references cursor).filterMap context.dispatched? = [] := by
    rw [List.filterMap_eq_nil_iff]
    rintro ⟨pointer, place⟩ hm
    have hc := TypeNode.isConstrained_false h.constrained (TypeNode.within_of_mem_references hm)
    unfold dispatched?
    cases hd : context.target.dispatches with
    | false => split <;> simp
    | true =>
      rw [hd] at hc
      obtain ⟨entry, hr, hn⟩ := TypeNode.resolve_of_isConstrained_false hc
      simp [hr, hn]
  exact List.perm_nil.mp (none_called ▸ h.dispatches)

end EmissionContext

end CheckedTypes
