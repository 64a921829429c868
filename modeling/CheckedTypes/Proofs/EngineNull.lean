import CheckedTypes.Proofs.EngineChecks
import CheckedTypes.Proofs.Simulation

namespace CheckedTypes

namespace EmissionContext

open Engine

variable {context : EmissionContext} {cursor : Cursor} {optional : Bool} {next : Nat}
  {ignorable : Bool} {checks : List Statement} {used : List String}

theorem unlessEmpty_ne_nil {condition : Bool} {check : Statement} (h : condition = true) :
    unlessEmpty condition check ≠ [] := by
  simp [unlessEmpty, h]

theorem append_ne_nil_of_needed {a b : Bool} {first more : List Statement}
    (hf : a = false → first ≠ []) (hm : b = false → more ≠ []) (needed : (a && b) = false) :
    first ++ more ≠ [] := by
  intro empty
  obtain ⟨here, there⟩ := List.append_eq_nil_iff.mp empty
  rcases Bool.and_eq_false_iff.mp needed with needed | needed
  · exact hf needed here
  · exact hm needed there

/-- A type that needs checks has some. -/
theorem Emits.ne_nil {node : TypeNode}
    (h : context.Emits cursor optional next node false checks used) : checks ≠ [] := by
  induction node generalizing cursor optional next checks used with
  | null => cases h.null.1
  | boolean => cases h.boolean.1
  | integer =>
    rw [h.integer.2.2]
    exact unlessEmpty_ne_nil (by simp [← h.integer.1])
  | number =>
    rw [h.number.2.2]
    exact unlessEmpty_ne_nil (by simp [← h.number.1])
  | string constraints =>
    obtain ⟨he, -, rfl⟩ := h.string
    intro empty
    obtain ⟨length, pattern⟩ := List.append_eq_nil_iff.mp empty
    cases hl : constraints.hasLength with
    | true => exact unlessEmpty_ne_nil hl length
    | false =>
      have some_pattern : constraints.pattern.isSome = true := by
        simpa [StringConstraints.isEmpty, hl, Option.isSome_iff_ne_none] using he
      exact unlessEmpty_ne_nil some_pattern pattern
  | bareArray => exact absurd h not_emits_bareArray
  | array items additionalItems constraints ih =>
    obtain ⟨-, a, elements, hi, he, rfl⟩ := h.array
    cases optional with
    | false => simp [arrayChecks]
    | true =>
      refine unlessEmpty_ne_nil ?_
      rw [Bool.not_eq_true', List.isEmpty_eq_false_iff]
      intro empty
      obtain ⟨own, inner⟩ := List.append_eq_nil_iff.mp empty
      cases a with
      | false => exact unlessEmpty_ne_nil (by simpa using ih hi) inner
      | true => exact unlessEmpty_ne_nil (by simpa using he) own
  | object properties required ih =>
    obtain ⟨-, a, members, hm, he, rfl⟩ := h.object
    refine unlessEmpty_ne_nil ?_
    rw [Bool.not_eq_true', List.isEmpty_eq_false_iff]
    intro empty
    obtain ⟨probes, inner⟩ := List.append_eq_nil_iff.mp empty
    cases a with
    | false =>
      refine hm.closed (P := fun a others _ => a = false → others ≠ []) (by simp)
        append_ne_nil_of_needed (fun name node hn _ _ _ _ he needed => ?_) rfl inner
      exact ih name node (mem_sortByName.mp hn) (needed ▸ he)
    | true =>
      rw [List.map_eq_nil_iff] at probes
      simp [probes] at he
  | enumeration => exact absurd h not_emits_enumeration
  | reference pointer =>
    obtain ⟨entry, -, -, hc⟩ := h.reference
    split at hc
    next => simp [hc.2]
    next => cases hc.1

variable {engine : Engine} {call : String → Json → RunResult} {patterns : List String}
  {scope : Scope} {path : List ValueStep}

theorem strays_unlessEmpty {condition : Bool} {statement : Statement}
    (h : engine.execute call patterns scope statement = .error .stray) :
    unlessEmpty condition statement = [] ∨
      engine.executeAll call patterns scope (unlessEmpty condition statement) = .error .stray := by
  cases condition with
  | false => exact .inl rfl
  | true => exact .inr ((executeAll_singleton _).trans h)

theorem strays_wrapped {body : List Statement} {wrap : List Statement → Statement}
    (h : body = [] ∨ engine.executeAll call patterns scope body = .error .stray)
    (hw : engine.execute call patterns scope (wrap body) =
      engine.executeAll call patterns scope body) :
    unlessEmpty (!body.isEmpty) (wrap body) = [] ∨
      engine.executeAll call patterns scope (unlessEmpty (!body.isEmpty) (wrap body)) =
        .error .stray := by
  rcases h with rfl | h
  · exact .inl rfl
  · exact .inr ((executeAll_unlessEmpty body hw).trans h)

theorem strays_append {first more : List Statement}
    (h : first = [] ∨ engine.executeAll call patterns scope first = .error .stray)
    (h' : more = [] ∨ engine.executeAll call patterns scope more = .error .stray) :
    first ++ more = [] ∨
      engine.executeAll call patterns scope (first ++ more) = .error .stray := by
  rcases h with rfl | h
  · exact h'
  · exact .inr (by rw [executeAll_append, h]; rfl)

theorem EmitsMembers.strays {required : List String} {properties : List (String × TypeNode)}
    (h : context.EmitsMembers cursor required next properties ignorable checks used)
    (each : ∀ name node, (name, node) ∈ properties → ∀ {next a others used},
      context.Emits (cursor.field name) (!required.contains name) next node a others used →
        others = [] ∨ engine.executeAll call patterns scope others = .error .stray) :
    checks = [] ∨ engine.executeAll call patterns scope checks = .error .stray :=
  h.closed (.inl rfl) strays_append each

theorem value?_field_of_none (h : engine.value? scope cursor = none) (name : String) :
    engine.value? scope (cursor.field name) = none := by
  rw [engine.value?_down scope (cursor.raw_field name), h, Option.bind_none]

theorem stray_failUnless {predicate : Predicate} {reason : Reason} {place : Cursor}
    (nowhere : engine.value? scope predicate.place = none) :
    engine.execute call patterns scope (.failUnless predicate reason place) = .error .stray := by
  rw [execute, nowhere]
  rfl

theorem stray_guarded (nowhere : engine.value? scope cursor = none) (body : List Statement) :
    engine.execute call patterns scope (.guarded cursor body) = .error .stray := by
  rw [execute, nowhere]
  rfl

/-- The first check of a type looks at its place, which is an error if there is nothing to look
into. -/
theorem Emits.strays {node : TypeNode}
    (h : context.Emits cursor optional next node ignorable checks used)
    (nowhere : engine.value? scope cursor = none) :
    checks = [] ∨ engine.executeAll call patterns scope checks = .error .stray := by
  induction node generalizing cursor optional next ignorable checks used with
  | null => exact .inl h.null.2.1
  | boolean => exact .inl h.boolean.2.1
  | integer => exact h.integer.2.2 ▸ strays_unlessEmpty (stray_failUnless nowhere)
  | number => exact h.number.2.2 ▸ strays_unlessEmpty (stray_failUnless nowhere)
  | string =>
    exact h.string.2.2 ▸ strays_append (strays_unlessEmpty (stray_failUnless nowhere))
      (strays_unlessEmpty (stray_failUnless nowhere))
  | bareArray => exact absurd h not_emits_bareArray
  | array items =>
    obtain ⟨-, a, elements, -, -, rfl⟩ := h.array
    cases optional with
    | true => exact strays_unlessEmpty (stray_guarded nowhere _)
    | false =>
      have absent : engine.execute call patterns scope
          (.failUnless (.present cursor) .arrayPresent cursor) = .error .stray :=
        stray_failUnless nowhere
      exact .inr (by rw [arrayChecks, if_neg (by simp), executeAll, absent]; rfl)
  | object properties required ih =>
    obtain ⟨-, a, members, hm, -, rfl⟩ := h.object
    cases optional with
    | true => exact strays_unlessEmpty (stray_guarded nowhere _)
    | false =>
      refine strays_wrapped (strays_append ?_ ?_) (by rw [execute])
      · cases TypeNode.requiredNames (sortByName properties) required with
        | nil => exact .inl rfl
        | cons name rest =>
          refine .inr ?_
          rw [List.map_cons, executeAll, stray_failUnless nowhere]
          rfl
      · exact hm.strays fun name node hn _ _ _ _ he =>
          ih name node (mem_sortByName.mp hn) he (value?_field_of_none nowhere name)
  | enumeration => exact absurd h not_emits_enumeration
  | reference pointer =>
    obtain ⟨entry, -, -, hc⟩ := h.reference
    split at hc
    next =>
      refine .inr ?_
      rw [hc.2, executeAll_singleton, execute, nowhere]
      rfl
    next => exact .inl hc.2

/-- A null that has to be an array or an object is refused, or looked into. -/
theorem Emits.execute_null_composite {node : TypeNode}
    (h : context.Emits cursor false next node false checks used)
    (composite : node.isComposite = true) (hs : engine.Sees scope cursor path (some .null)) :
    engine.executeAll call patterns scope checks ≠ .ok () := by
  have filled := h.ne_nil
  cases node with
  | array items =>
    cases items with
    | none => exact absurd h not_emits_bareArray
    | some items =>
      obtain ⟨-, a, elements, -, -, rfl⟩ := h.array
      have absent : engine.execute call patterns scope
          (.failUnless (.present cursor) .arrayPresent cursor) =
            .error (.thrown .arrayPresent path) := by
        rw [execute, Predicate.place, hs.value_eq, hs.path_eq]
        rfl
      rw [arrayChecks, if_neg (by simp), executeAll, absent]
      intro passed
      cases passed
  | object properties required =>
    obtain ⟨-, a, members, hm, -, rfl⟩ := h.object
    have nowhere : ∀ name, engine.value? scope (cursor.field name) = none := by
      intro name
      rw [engine.value?_down scope (cursor.raw_field name), hs.value_eq]
      rfl
    have inner : members = [] ∨ engine.executeAll call patterns scope members = .error .stray :=
      hm.strays fun name node _ _ _ _ _ he => he.strays (nowhere name)
    rw [executeAll_objectChecks_required]
    cases hr : TypeNode.requiredNames (sortByName properties) required with
    | nil =>
      rcases inner with rfl | inner
      · rw [hr] at filled
        exact absurd rfl filled
      · rw [List.map_nil, List.nil_append, inner]
        intro passed
        cases passed
    | cons name rest =>
      have named : scope.path? (cursor.field name) = some (path ++ [.key name]) := by
        rw [scope.path?_down (cursor.raw_field name), hs.path_eq]
        rfl
      have absent : engine.execute call patterns scope
          (.failUnless (.member cursor name) .memberRequired (cursor.field name)) =
            .error (.thrown .memberRequired (path ++ [.key name])) := by
        rw [execute, Predicate.place, hs.value_eq, named]
        rfl
      rw [List.map_cons, List.cons_append, executeAll, absent]
      intro passed
      cases passed
  | _ => cases composite

end EmissionContext

theorem Engine.unfinished_ne_ok (engine : Engine) (items : List FileItem) (ident : String)
    (value : Json) : engine.runValidator items 0 ident value ≠ .ok () := by
  intro passed
  cases passed

theorem eventually_of_succ {p : Nat → Prop} (h : ∀ᶠ depth in Filter.atTop, p (depth + 1)) :
    ∀ᶠ depth in Filter.atTop, p depth := by
  obtain ⟨enough, h⟩ := Filter.eventually_atTop.mp h
  refine Filter.eventually_atTop.mpr ⟨enough + 1, fun depth le => ?_⟩
  obtain ⟨depth, rfl⟩ : ∃ n, depth = n + 1 := ⟨depth - 1, by omega⟩
  exact h depth (by omega)

namespace TypeTable

open EmissionContext Engine

variable {table : TypeTable} {modulePath text : String} {validated : List String}
  {items : List FileItem} {file : FileParts}

theorem IsChecked.not_isReference {entry : TypeEntry} (h : IsChecked entry) :
    entry.node.isReference = false := by
  cases hn : entry.node with
  | reference pointer =>
    rcases h with he | ⟨part, hw, hc⟩
    · simp [hn, TypeNode.isEnumeration] at he
    · rw [hn] at hw
      cases hw
      exact hc.elim
  | _ => rfl

/-- References from a type that leads to something to check end. -/
theorem exists_endsAt {entry last : TypeEntry}
    (chain : Relation.ReflTransGen table.Refers entry last) (checked : IsChecked last) :
    ∃ target, table.EndsAt entry.node target := by
  induction chain using Relation.ReflTransGen.head_induction_on with
  | refl => exact ⟨_, .here checked.not_isReference⟩
  | @head entry next step _ ih =>
    obtain ⟨pointer, hw, hr⟩ := step
    cases hn : entry.node with
    | reference other =>
      rw [hn] at hw
      cases hw
      obtain ⟨target, ends⟩ := ih
      exact ⟨target, .there hr ends⟩
    | _ => exact ⟨_, .here rfl⟩

theorem Renders.exists_endsAt (h : table.Renders .typescript modulePath text validated items file)
    {entry : TypeEntry} (hm : entry ∈ table.entries) (checked : entry.ident ∈ validated) :
    ∃ target, table.EndsAt entry.node target := by
  obtain ⟨other, ho, same, leads⟩ := (h.closes.mem_iff table.sortedEntries_perm).mp checked
  rw [eq_of_ident ho hm same] at leads
  obtain ⟨last, chain, reached⟩ : ∃ last, Relation.ReflTransGen table.Refers entry last ∧
      IsChecked last := by
    simpa [LeadsToCheck, Target.dispatches] using leads
  exact TypeTable.exists_endsAt chain reached

/-- The validator of a type that has one runs the checks emitted for it, unless the type is an
enumeration. -/
theorem Renders.runValidator_succ
    (h : table.Renders .typescript modulePath text validated items file) {entry : TypeEntry}
    (hm : entry ∈ table.entries) (checked : entry.ident ∈ validated) :
    (∃ values, entry.node = .enumeration values ∧
      ∀ (engine : Engine) depth, engine.runValidator items (depth + 1) entry.ident .null = .ok ()) ∨
    ∃ start checks patterns,
      Emits { target := .typescript, table, validated, current := entry.name }
        FileParts.root false start entry.node false checks patterns ∧
      ∀ (engine : Engine) depth value, engine.runValidator items (depth + 1) entry.ident value =
        engine.executeAll (engine.runValidator items depth) (items.flatMap FileItem.patterns)
          { main := value } checks := by
  obtain ⟨start, item, hitem, -, found⟩ := h.exists_item hm
  have has := (h.mem_validatorIdents hm hitem).mpr checked
  cases hitem with
  | @enumeration values hn =>
    refine .inl ⟨values, hn, fun engine depth => ?_⟩
    rw [Engine.runValidator, found]
    rfl
  | @type ignorable checks patterns _ he =>
    cases ignorable with
    | true => cases has
    | false =>
      refine .inr ⟨start, checks, patterns, he, fun engine depth value => ?_⟩
      rw [Engine.runValidator, found]
      rfl

/-- A validator lets a null pass unless references lead from its type to an array or an object. -/
theorem Renders.runValidator_null
    (h : table.Renders .typescript modulePath text validated items file) {entry : TypeEntry}
    (hm : entry ∈ table.entries) (checked : entry.ident ∈ validated) {target : TypeNode}
    (ends : table.EndsAt entry.node target) (engine : Engine) :
    (target.isComposite = true →
      ∀ depth, engine.runValidator items depth entry.ident .null ≠ .ok ()) ∧
    (target.isComposite = false →
      ∀ᶠ depth in Filter.atTop, engine.runValidator items depth entry.ident .null = .ok ()) := by
  generalize hn : entry.node = node at ends
  induction ends generalizing entry with
  | @here node plain =>
    subst hn
    rcases h.runValidator_succ hm checked with ⟨values, hv, run⟩ | ⟨start, checks, used, he, run⟩
    · exact ⟨by simp [hv, TypeNode.isComposite],
        fun _ => eventually_of_succ (.of_forall (run engine))⟩
    · refine ⟨fun composite depth => ?_,
        fun simple => eventually_of_succ (.of_forall fun depth => ?_)⟩
      · cases depth with
        | zero => exact engine.unfinished_ne_ok items entry.ident .null
        | succ depth =>
          rw [run]
          exact he.execute_null_composite composite (engine.sees_root .null)
      · rw [run]
        exact he.execute_missing plain (.inr simple) (engine.sees_root .null) (.inr rfl)
  | @there pointer other target hr _ ih =>
    rcases h.runValidator_succ hm checked with ⟨values, hv, -⟩ | ⟨start, checks, used, he, run⟩
    · cases hn.symm.trans hv
    · rw [hn] at he
      obtain ⟨found, ho, -, hc⟩ := he.reference
      cases Except.ok.inj (hr.symm.trans ho)
      split at hc
      next called =>
        obtain ⟨refused, passed⟩ := ih (resolve_mem hr) called.2 rfl
        have step : ∀ depth, engine.runValidator items (depth + 1) entry.ident .null =
            engine.runValidator items depth other.ident .null := by
          intro depth
          rw [run, hc.2, executeAll_singleton, execute, (engine.sees_root .null).value_eq]
          rfl
        refine ⟨fun composite depth => ?_, fun simple => eventually_of_succ ?_⟩
        · cases depth with
          | zero => exact engine.unfinished_ne_ok items entry.ident .null
          | succ depth => exact step depth ▸ refused composite depth
        · simpa only [step] using passed simple
      next => cases hc.1

end TypeTable

end CheckedTypes
