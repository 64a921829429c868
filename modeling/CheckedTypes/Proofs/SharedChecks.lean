import CheckedTypes.Proofs.EmittedType
import CheckedTypes.Proofs.OwnChecks
import CheckedTypes.SourceFile
import Mathlib

namespace CheckedTypes

open Statement

/-- An object in a type, at any depth, has a property of a name. -/
def TypeNode.HasProperty (node : TypeNode) (name : String) : Prop :=
  ∃ properties required child, (TypeNode.object properties required).Within node ∧
    (name, child) ∈ properties

theorem TypeNode.HasProperty.items {items : TypeNode} {name : String}
    (h : items.HasProperty name) (additionalItems : Bool) (constraints : ArrayConstraints) :
    (TypeNode.array (some items) additionalItems constraints).HasProperty name := by
  obtain ⟨properties, required, child, hw, hm⟩ := h
  exact ⟨properties, required, child, .items hw, hm⟩

theorem TypeNode.HasProperty.property {node : TypeNode} {name field : String}
    {properties : List (String × TypeNode)} (hm : (field, node) ∈ properties)
    (h : node.HasProperty name) (required : Option (List String)) :
    (TypeNode.object properties required).HasProperty name := by
  obtain ⟨inner, asked, child, hw, hc⟩ := h
  exact ⟨inner, asked, child, .property hm hw, hc⟩

namespace Statement

/-- Nothing is left out of a statement: it calls no other validator, and it has no empty blocks. -/
structure Settled (statement : Statement) : Prop where
  rows : ∀ depth, rowsAll depth statement.own = statement.rows depth
  shown : statement.own ≠ []

theorem rowsAll_ownAll {statements : List Statement}
    (h : ∀ statement ∈ statements, statement.Settled) (depth : Nat) :
    rowsAll depth (ownAll statements) = rowsAll depth statements := by
  induction statements with
  | nil => rfl
  | cons statement rest ih =>
    obtain ⟨first, others⟩ := List.forall_mem_cons.mp h
    rw [ownAll, rowsAll_append, first.rows, ih others, rowsAll]

theorem ownAll_ne_nil {statements : List Statement}
    (h : ∀ statement ∈ statements, statement.Settled) (hne : statements ≠ []) :
    ownAll statements ≠ [] := by
  cases statements with
  | nil => exact absurd rfl hne
  | cons statement rest =>
    have first := h statement List.mem_cons_self
    exact fun he => first.shown (List.append_eq_nil_iff.mp he).1

theorem settled_failUnless (predicate : Predicate) (reason : Reason) (cursor : Cursor) :
    (failUnless predicate reason cursor).Settled :=
  ⟨fun _ => rfl, List.cons_ne_nil _ _⟩

theorem settled_splice {body : List Statement} (h : ∀ statement ∈ body, statement.Settled)
    (hne : body ≠ []) : (splice body).Settled :=
  ⟨fun depth => rowsAll_ownAll h depth, ownAll_ne_nil h hne⟩

theorem Encloses.own_eq {block : List Statement → Statement} {row : Row} (h : Encloses block row)
    {body : List Statement} (hne : ownAll body ≠ []) :
    (block body).own = [block (ownAll body)] := by
  rw [h.own]
  cases hb : ownAll body with
  | nil => exact absurd hb hne
  | cons => rfl

theorem Encloses.settled {block : List Statement → Statement} {row : Row}
    (h : Encloses block row) {body : List Statement}
    (inside : ∀ statement ∈ body, statement.Settled) (hne : body ≠ []) :
    (block body).Settled := by
  have own := h.own_eq (ownAll_ne_nil inside hne)
  refine ⟨fun depth => ?_, by simp [own]⟩
  rw [own, rowsAll, rowsAll, List.append_nil, h.rows, h.rows, rowsAll_ownAll inside]

end Statement

namespace EmissionContext

theorem mem_unlessEmpty {constrained : Bool} {check statement : Statement} :
    statement ∈ unlessEmpty constrained check ↔ constrained = true ∧ statement = check := by
  cases constrained <;> simp [unlessEmpty]

theorem ownAll_block {block : List Statement → Statement} {row : Row} (h : Encloses block row)
    (body : List Statement) :
    ownAll (unlessEmpty (!body.isEmpty) (block body)) = around block (ownAll body) := by
  cases body with
  | nil => rfl
  | cons statement rest =>
    change (block (statement :: rest)).own ++ [] = _
    rw [List.append_nil, h.own]

theorem ownAll_splice (body : List Statement) :
    ownAll (unlessEmpty (!body.isEmpty) (.splice body)) = ownAll body := by
  cases body with
  | nil => rfl
  | cons statement rest => exact List.append_nil _

/-- What an array checks itself depends on what its elements check themselves. -/
theorem ownAll_arrayChecks {elements others : List Statement} (h : ownAll elements = ownAll others)
    (cursor : Cursor) (optional : Bool) (constraints : ArrayConstraints) :
    ownAll (arrayChecks cursor optional constraints elements) =
      ownAll (arrayChecks cursor optional constraints others) := by
  have loops := (ownAll_block (encloses_loop cursor) elements).trans
    (h ▸ (ownAll_block (encloses_loop cursor) others).symm)
  unfold arrayChecks
  cases optional with
  | true =>
    simp only [if_true, ownAll_block (encloses_guarded cursor), ownAll_append, loops]
  | false =>
    simp only [Bool.false_eq_true, if_false, ownAll, ownAll_splice, ownAll_append, loops]

theorem ownAll_objectChecks {members others : List Statement} (h : ownAll members = ownAll others)
    (cursor : Cursor) (optional : Bool) (required : List String) :
    ownAll (objectChecks cursor optional required members) =
      ownAll (objectChecks cursor optional required others) := by
  unfold objectChecks
  cases optional with
  | true => simp only [if_true, ownAll_block (encloses_guarded cursor), ownAll_append, h]
  | false => simp only [Bool.false_eq_true, if_false, ownAll_splice, ownAll_append, h]

variable {context other : EmissionContext} {cursor : Cursor} {required : List String}
  {optional a b : Bool} {next : Nat} {node : TypeNode} {properties : List (String × TypeNode)}
  {checks more : List Statement} {patterns others : List String}

theorem EmitsMembers.agree
    (h : context.EmitsMembers cursor required next properties a checks patterns)
    (ho : other.EmitsMembers cursor required next properties b more others)
    (each : ∀ name node, (name, node) ∈ properties → ∀ {cursor optional next a b checks more
      patterns others}, context.Emits cursor optional next node a checks patterns →
        other.Emits cursor optional next node b more others →
          patterns = others ∧ ownAll checks = ownAll more) :
    patterns = others ∧ ownAll checks = ownAll more := by
  induction h generalizing b more others with
  | nil =>
    cases ho
    exact ⟨rfl, rfl⟩
  | cons first _ ih =>
    cases ho with
    | cons second rest =>
      obtain ⟨rfl, same⟩ := each _ _ List.mem_cons_self first second
      obtain ⟨rfl, follow⟩ := ih rest fun name node hm => each name node (List.mem_cons_of_mem _ hm)
      exact ⟨rfl, by rw [ownAll_append, ownAll_append, same, follow]⟩

/-- Two emissions of a type, of which each may call other validators or not, number the same
patterns and make the same checks themselves. -/
theorem Emits.agree (h : context.Emits cursor optional next node a checks patterns)
    (ho : other.Emits cursor optional next node b more others) :
    patterns = others ∧ ownAll checks = ownAll more := by
  induction node generalizing cursor optional next a b checks more patterns others with
  | null =>
    obtain ⟨-, rfl, rfl⟩ := h.null
    obtain ⟨-, rfl, rfl⟩ := ho.null
    exact ⟨rfl, rfl⟩
  | boolean =>
    obtain ⟨-, rfl, rfl⟩ := h.boolean
    obtain ⟨-, rfl, rfl⟩ := ho.boolean
    exact ⟨rfl, rfl⟩
  | integer constraints =>
    obtain ⟨-, rfl, rfl⟩ := h.integer
    obtain ⟨-, rfl, rfl⟩ := ho.integer
    exact ⟨rfl, rfl⟩
  | number constraints =>
    obtain ⟨-, rfl, rfl⟩ := h.number
    obtain ⟨-, rfl, rfl⟩ := ho.number
    exact ⟨rfl, rfl⟩
  | string constraints =>
    obtain ⟨-, rfl, rfl⟩ := h.string
    obtain ⟨-, rfl, rfl⟩ := ho.string
    exact ⟨rfl, rfl⟩
  | bareArray => exact absurd h not_emits_bareArray
  | array items additionalItems constraints ih =>
    obtain ⟨-, _, elements, hi, -, rfl⟩ := h.array
    obtain ⟨-, _, _, hj, -, rfl⟩ := ho.array
    obtain ⟨rfl, same⟩ := ih hi hj
    exact ⟨rfl, ownAll_arrayChecks same cursor optional constraints⟩
  | object properties required ih =>
    obtain ⟨-, _, members, hm, -, rfl⟩ := h.object
    obtain ⟨-, _, _, hn, -, rfl⟩ := ho.object
    obtain ⟨rfl, same⟩ := hm.agree hn fun name node hp => ih name node (mem_sortByName.mp hp)
    exact ⟨rfl, ownAll_objectChecks same cursor optional _⟩
  | enumeration => exact absurd h not_emits_enumeration
  | reference pointer =>
    have calls {context : EmissionContext} {a : Bool} {checks : List Statement}
        {patterns : List String}
        (h : context.Emits cursor optional next (.reference pointer) a checks patterns) :
        patterns = [] ∧ ownAll checks = [] := by
      obtain ⟨entry, -, rfl, calls⟩ := h.reference
      split at calls
      next =>
        rw [calls.2]
        exact ⟨rfl, rfl⟩
      next =>
        rw [calls.2]
        exact ⟨rfl, rfl⟩
    obtain ⟨rfl, first⟩ := calls h
    obtain ⟨rfl, second⟩ := calls ho
    exact ⟨rfl, first.trans second.symm⟩

/-- A property that the statements of an emission have: a check has it at fitting places, and a
block has it if the statements inside do. -/
structure Kept (context : EmissionContext) (Fits : Cursor → Prop) (Q : Statement → Prop) :
    Prop where
  failUnless : ∀ predicate reason cursor, Fits predicate.cursor → Fits cursor →
    Q (.failUnless predicate reason cursor)
  dispatch : context.target.dispatches = true → ∀ ident cursor, Fits cursor →
    Q (.dispatch ident cursor)
  guarded : ∀ cursor body, Fits cursor → body ≠ [] → (∀ statement ∈ body, Q statement) →
    Q (.guarded cursor body)
  loop : ∀ cursor body, Fits cursor → body ≠ [] → (∀ statement ∈ body, Q statement) →
    Q (.loop cursor body)
  splice : ∀ body, body ≠ [] → (∀ statement ∈ body, Q statement) → Q (.splice body)

variable {Fits : Cursor → Prop} {Q : Statement → Prop}

theorem Kept.unlessEmpty (kept : context.Kept Fits Q) (fits : Fits cursor) {predicate : Predicate}
    (place : predicate.cursor = cursor) (constrained : Bool) (reason : Reason) :
    ∀ statement ∈ unlessEmpty constrained (.failUnless predicate reason cursor), Q statement := by
  intro statement hm
  rw [(mem_unlessEmpty.mp hm).2]
  exact kept.failUnless _ _ _ (place ▸ fits) fits

theorem Kept.arrayChecks (kept : context.Kept Fits Q) (fits : Fits cursor)
    {elements : List Statement} (h : ∀ statement ∈ elements, Q statement) (optional : Bool)
    (constraints : ArrayConstraints) :
    ∀ statement ∈ arrayChecks cursor optional constraints elements, Q statement := by
  have count : ∀ statement ∈ EmissionContext.unlessEmpty (!constraints.isEmpty)
      (.failUnless (.array constraints cursor) .array cursor), Q statement :=
    kept.unlessEmpty fits rfl _ _
  have loop : ∀ statement ∈ EmissionContext.unlessEmpty (!elements.isEmpty) (.loop cursor elements),
      Q statement := by
    intro statement hm
    obtain ⟨hne, rfl⟩ := mem_unlessEmpty.mp hm
    exact kept.loop _ _ fits (by simpa using hne) h
  have body := List.forall_mem_append.mpr ⟨count, loop⟩
  unfold EmissionContext.arrayChecks
  cases optional with
  | true =>
    intro statement hm
    obtain ⟨hne, rfl⟩ := mem_unlessEmpty.mp hm
    exact kept.guarded _ _ fits (by simpa using hne) body
  | false =>
    refine List.forall_mem_cons.mpr ⟨kept.failUnless _ _ _ fits fits, fun statement hm => ?_⟩
    obtain ⟨hne, rfl⟩ := mem_unlessEmpty.mp hm
    exact kept.splice _ (by simpa using hne) body

theorem Kept.objectChecks (kept : context.Kept Fits Q) (fits : Fits cursor)
    (members : ∀ name ∈ required, Fits (cursor.field name))
    (h : ∀ statement ∈ checks, Q statement) (optional : Bool) :
    ∀ statement ∈ objectChecks cursor optional required checks, Q statement := by
  have probes : ∀ statement ∈ required.map fun name =>
      Statement.failUnless (.member cursor name) .memberRequired (cursor.field name),
      Q statement := by
    intro statement hm
    obtain ⟨name, hn, rfl⟩ := List.mem_map.mp hm
    exact kept.failUnless _ _ _ fits (members name hn)
  have body := List.forall_mem_append.mpr ⟨probes, h⟩
  unfold EmissionContext.objectChecks
  intro statement hm
  obtain ⟨hne, rfl⟩ := mem_unlessEmpty.mp hm
  cases optional with
  | true => exact kept.guarded _ _ fits (by simpa using hne) body
  | false => exact kept.splice _ (by simpa using hne) body

/-- All statements of an emission have a property that is kept. -/
theorem Emits.kept (kept : context.Kept Fits Q)
    (h : context.Emits cursor optional next node a checks patterns) (fits : Fits cursor)
    (element : ∀ cursor, Fits cursor → Fits cursor.element)
    (field : ∀ name, node.HasProperty name → ∀ cursor, Fits cursor → Fits (cursor.field name)) :
    ∀ statement ∈ checks, Q statement := by
  induction node generalizing cursor optional next a checks patterns with
  | null => simp [h.null]
  | boolean => simp [h.boolean]
  | integer =>
    obtain ⟨-, -, rfl⟩ := h.integer
    exact kept.unlessEmpty fits rfl _ _
  | number =>
    obtain ⟨-, -, rfl⟩ := h.number
    exact kept.unlessEmpty fits rfl _ _
  | string =>
    obtain ⟨-, -, rfl⟩ := h.string
    exact List.forall_mem_append.mpr
      ⟨kept.unlessEmpty fits rfl _ _, kept.unlessEmpty fits rfl _ _⟩
  | bareArray => exact absurd h not_emits_bareArray
  | array items additionalItems constraints ih =>
    obtain ⟨-, _, elements, hi, -, rfl⟩ := h.array
    have inside := ih hi (element cursor fits) fun name hn => field name (hn.items _ _)
    exact kept.arrayChecks fits inside optional constraints
  | object properties required ih =>
    obtain ⟨-, _, members, hm, -, rfl⟩ := h.object
    have member {name : String} {node : TypeNode} (hp : (name, node) ∈ sortByName properties) :
        Fits (cursor.field name) := field name ⟨_, _, _, .here, mem_sortByName.mp hp⟩ cursor fits
    have inside : ∀ statement ∈ members, Q statement := by
      refine hm.closed (P := fun _ checks _ => ∀ statement ∈ checks, Q statement) (by simp)
        (fun first more => List.forall_mem_append.mpr ⟨first, more⟩)
        fun name node hp _ _ _ _ he => ?_
      exact ih name node (mem_sortByName.mp hp) he (member hp)
        fun inner hi => field inner (hi.property (mem_sortByName.mp hp) required)
    refine kept.objectChecks fits (fun name hn => ?_) inside optional
    obtain ⟨⟨name, node⟩, hp, rfl⟩ := List.mem_map.mp (List.mem_filter.mp hn).1
    exact member hp
  | enumeration => exact absurd h not_emits_enumeration
  | reference pointer =>
    obtain ⟨entry, -, -, calls⟩ := h.reference
    split at calls
    next hd =>
      rw [calls.2]
      exact List.forall_mem_singleton.mpr (kept.dispatch hd.1 _ _ fits)
    next => simp [calls.2]

/-- Where validators do not call each other, nothing is left out of one. -/
theorem Emits.settled (h : context.Emits cursor optional next node a checks patterns)
    (calls : context.target.dispatches = false) : ∀ statement ∈ checks, statement.Settled := by
  have kept : context.Kept (fun _ => True) Settled := {
    failUnless := fun predicate reason cursor _ _ => settled_failUnless predicate reason cursor
    dispatch := by simp [calls]
    guarded := fun cursor _ _ hne inside => (encloses_guarded cursor).settled inside hne
    loop := fun cursor _ _ hne inside => (encloses_loop cursor).settled inside hne
    splice := fun _ hne inside => settled_splice inside hne }
  exact h.kept kept trivial (fun _ _ => trivial) fun _ _ _ _ => trivial

/-- What every descent keeps holds of the places that are looked at. -/
theorem Emits.forall_mem_cursorsAll
    (h : context.Emits cursor optional next node a checks patterns) (fits : Fits cursor)
    (element : ∀ cursor, Fits cursor → Fits cursor.element)
    (field : ∀ name, node.HasProperty name → ∀ cursor, Fits cursor → Fits (cursor.field name)) :
    ∀ place ∈ cursorsAll checks, Fits place := by
  have kept : context.Kept Fits fun statement => ∀ place ∈ statement.cursors, Fits place := {
    failUnless := by simp +contextual [cursors]
    dispatch := by simp +contextual [cursors]
    guarded := fun cursor body fits _ inside =>
      List.forall_mem_cons.mpr ⟨fits, Statement.forall_mem_cursorsAll.mpr inside⟩
    loop := fun cursor body fits _ inside =>
      List.forall_mem_cons.mpr ⟨fits, Statement.forall_mem_cursorsAll.mpr inside⟩
    splice := fun body _ inside => Statement.forall_mem_cursorsAll.mpr inside }
  exact Statement.forall_mem_cursorsAll.mpr (h.kept kept fits element field)

/-- Without line breaks in the names of properties, no check looks at a place with one. -/
theorem Emits.onOneLine (h : context.Emits cursor optional next node a checks patterns)
    (hc : cursor.OnOneLine) (names : ∀ name, node.HasProperty name → '\n' ∉ name.toList) :
    ∀ place ∈ cursorsAll checks, place.OnOneLine :=
  h.forall_mem_cursorsAll hc (fun _ fits => fits.element) fun name hn _ fits =>
    fits.field (names name hn)

end EmissionContext

namespace TypeTable

end TypeTable

end CheckedTypes
