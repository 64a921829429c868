import CheckedTypes.Proofs.DroppedMember
import CheckedTypes.Proofs.EngineNull

namespace CheckedTypes

/-- Two runs are in a relation also where both have stopped before and where both go on in the same
way. -/
structure KeptByRuns (R : RunResult → RunResult → Prop) : Prop where
  halted : ∀ halt, R (.error halt) (.error halt)
  andThen : ∀ {first second : RunResult} (next : RunResult),
    R first second → R (first.andThen next) (second.andThen next)

theorem keptByRuns_eq : KeptByRuns Eq where
  halted _ := rfl
  andThen next h := by rw [h]

theorem keptByRuns_ne_ok : KeptByRuns fun first _ => first ≠ .ok () where
  halted _ := nofun
  andThen _ h := mt (fun ok => (RunResult.andThen_eq_ok ok).1) h

namespace KeptByRuns

variable {R : RunResult → RunResult → Prop}

theorem behind (kept : KeptByRuns R) {first second : RunResult} (h : R first second)
    (before : RunResult) : R (before.andThen first) (before.andThen second) := by
  cases before with
  | error halt => exact kept.halted halt
  | ok => exact h

theorem eachPosition (kept : KeptByRuns R) {body other : Nat → RunResult} {index : Nat}
    (apart : ∀ position, position ≠ index → body position = other position)
    (here : R (body index) (other index)) {position count : Nat} (least : position ≤ index)
    (most : index < position + count) :
    R (eachPosition body position count) (CheckedTypes.eachPosition other position count) := by
  have equal : ∀ {position count}, index < position →
      CheckedTypes.eachPosition body position count =
        CheckedTypes.eachPosition other position count := by
    intro position count behind
    induction count generalizing position with
    | zero => rfl
    | succ count ih =>
      rw [CheckedTypes.eachPosition, CheckedTypes.eachPosition, apart position (by omega),
        ih (by omega)]
  induction count generalizing position with
  | zero => omega
  | succ count ih =>
    have step (run : Nat → RunResult) : CheckedTypes.eachPosition run position (count + 1) =
        (run position).andThen (CheckedTypes.eachPosition run (position + 1) count) := rfl
    rw [step, step]
    by_cases reached : position = index
    · subst reached
      rw [equal (Nat.lt_succ_self position)]
      exact kept.andThen _ here
    · rw [apart position reached]
      exact kept.behind (ih (by omega) (by omega)) _

end KeptByRuns

namespace EmissionContext

open Engine

/-- Two runs of the checks of an object's members are related if those of one member are and the
others are the same. -/
theorem EmitsMembers.related {R : RunResult → RunResult → Prop} (kept : KeptByRuns R)
    {context : EmissionContext} {cursor : Cursor} {required : List String} {next : Nat}
    {properties : List (String × TypeNode)} {ignorable : Bool} {checks : List Statement}
    {used : List String}
    (h : context.EmitsMembers cursor required next properties ignorable checks used)
    (nodup : (properties.map Prod.fst).Nodup) {name : String} {node : TypeNode}
    (declared : (name, node) ∈ properties) {engine : Engine}
    {call : Nat → String → Json → RunResult} {patterns : List String} {scope other : Scope}
    (apart : ∀ another, another ≠ name → engine.Alike scope other (cursor.field another))
    (here : ∀ next a checks used,
      context.Emits (cursor.field name) (!required.contains name) next node a checks used →
        ∀ᶠ depth in Filter.atTop, R (engine.executeAll (call depth) patterns scope checks)
          (engine.executeAll (call depth) patterns other checks)) :
    ∀ᶠ depth in Filter.atTop, R (engine.executeAll (call depth) patterns scope checks)
      (engine.executeAll (call depth) patterns other checks) := by
  induction h with
  | nil => cases declared
  | @cons next first part rest a b checks more used others hfirst hrest ih =>
    rw [List.map_cons, List.nodup_cons] at nodup
    rcases List.mem_cons.mp declared with he | declared
    · obtain ⟨rfl, rfl⟩ := Prod.mk.inj he
      filter_upwards [here _ _ _ _ hfirst] with depth related
      have same : engine.executeAll (call depth) patterns scope more =
          engine.executeAll (call depth) patterns other more :=
        hrest.execute_congr fun another node hm _ _ _ _ he =>
          he.execute_congr <| apart another fun he => nodup.1 (List.mem_map.mpr ⟨_, hm, he⟩)
      rw [executeAll_append, executeAll_append, same]
      exact kept.andThen _ related
    · have before : first ≠ name := by
        rintro rfl
        exact nodup.1 (List.mem_map.mpr ⟨_, declared, rfl⟩)
      filter_upwards [ih nodup.2 declared] with depth related
      rw [executeAll_append, executeAll_append, hfirst.execute_congr (apart first before)]
      exact kept.behind related _

end EmissionContext

namespace TypeTable

open EmissionContext Engine

/-- A type is nothing but a reference to one that has a validator. -/
def Calls (table : TypeTable) (validated : List String) (node : TypeNode) (entry : TypeEntry) :
    Prop :=
  ∃ pointer, node = .reference pointer ∧ table.resolve pointer = .ok entry ∧
    entry.ident ∈ validated

/-- A type is nothing but a reference to one that has a validator, and references lead on from
there to an array or an object. -/
def RefusesNull (table : TypeTable) (validated : List String) (node : TypeNode) : Prop :=
  ∃ entry target, table.Calls validated node entry ∧ table.EndsAt entry.node target ∧
    target.isComposite = true

/-- The checks of a type do alike on two values, wherever they stand, if calls may be nested deep
enough. -/
def Relates (table : TypeTable) (validated : List String) (items : List FileItem) (engine : Engine)
    (R : RunResult → RunResult → Prop) (node : TypeNode) (value rest : Json) : Prop :=
  ∀ ⦃current cursor optional next ignorable checks patterns⦄,
    Emits { target := .typescript, table, validated, current } cursor optional next node ignorable
      checks patterns →
    ∀ ⦃scope other path⦄, engine.Sees scope cursor path (some value) →
      engine.Sees other cursor path (some rest) →
      ∀ᶠ depth in Filter.atTop,
        R (engine.executeAll (engine.runValidator items depth)
            (items.flatMap FileItem.patterns) scope checks)
          (engine.executeAll (engine.runValidator items depth)
            (items.flatMap FileItem.patterns) other checks)

variable {table : TypeTable} {modulePath text : String} {validated : List String}
  {items : List FileItem} {file : FileParts} {engine : Engine}
  {R : RunResult → RunResult → Prop} {name : String} {gone : TypeNode}

/-- Objects that differ in one member, which is not missing from one of them if it is required. -/
theorem relates_object (kept : KeptByRuns R) {properties : List (String × TypeNode)}
    {required : Option (List String)} {members others : List (String × Json)} {name : String}
    {node : TypeNode} (declared : properties.lookup name = some node)
    (apart : ∀ another, another ≠ name → members.lookup another = others.lookup another)
    (missing : name ∈ required.getD [] →
      (members.lookup name).isSome = (others.lookup name).isSome)
    (here : ∀ ⦃current cursor optional next ignorable checks patterns⦄,
      (name ∉ required.getD [] → optional = true) →
      Emits { target := .typescript, table, validated, current } cursor optional next node
        ignorable checks patterns →
      ∀ ⦃scope other path⦄,
        engine.Sees scope cursor path ((members.lookup name).or (engine.inherited name)) →
        engine.Sees other cursor path ((others.lookup name).or (engine.inherited name)) →
        ∀ᶠ depth in Filter.atTop,
          R (engine.executeAll (engine.runValidator items depth)
              (items.flatMap FileItem.patterns) scope checks)
            (engine.executeAll (engine.runValidator items depth)
              (items.flatMap FileItem.patterns) other checks)) :
    table.Relates validated items engine R (.object properties required) (.object members)
      (.object others) := by
  intro current cursor optional next ignorable checks patterns he scope other path hs ho
  obtain ⟨distinct, a, inner, hm, -, rfl⟩ := he.object
  have asked : ∀ name ∈ TypeNode.requiredNames (sortByName properties) required,
      name ∈ required.getD [] := fun name hr => by simpa using (List.mem_filter.mp hr).2
  have member : (name, node) ∈ sortByName properties :=
    mem_sortByName.mpr (mem_of_lookup declared)
  have related : ∀ᶠ depth in Filter.atTop,
      R (engine.executeAll (engine.runValidator items depth) (items.flatMap FileItem.patterns)
          scope inner)
        (engine.executeAll (engine.runValidator items depth) (items.flatMap FileItem.patterns)
          other inner) := by
    refine hm.related kept (nodup_of_collision? distinct) member (fun another apart' => ?_)
      fun next a checks used emits => here
        (fun free => by simpa using mt (asked name) free) emits (hs.field name) (ho.field name)
    have sees := hs.field another
    rw [apart another apart'] at sees
    exact sees.alike (ho.field another)
  filter_upwards [related] with depth related
  rw [executeAll_objectChecks hs, executeAll_objectChecks ho, executeAll_append,
    executeAll_append]
  have found : ∀ another ∈ TypeNode.requiredNames (sortByName properties) required,
      (members.lookup another).isSome = (others.lookup another).isSome := by
    intro another hr
    by_cases same : another = name
    · subst same
      exact missing (asked _ hr)
    · rw [apart another same]
  let probes := (TypeNode.requiredNames (sortByName properties) required).map fun name =>
    Statement.failUnless (.member cursor name) .memberRequired (cursor.field name)
  have same : engine.executeAll (engine.runValidator items depth)
        (items.flatMap FileItem.patterns) scope probes =
      engine.executeAll (engine.runValidator items depth)
        (items.flatMap FileItem.patterns) other probes :=
    executeAll_probes_congr _ fun another hr => by
      rw [execute_probe hs, execute_probe ho, found another hr]
  rw [same]
  exact kept.behind related _

/-- A null that is dropped is a member that need not be there. -/
theorem relates_here (kept : KeptByRuns R)
    (base : ∀ entry, table.Calls validated gone entry → ∀ᶠ depth in Filter.atTop,
      R (engine.runValidator items depth entry.ident .null) (.ok ()))
    (still : (∀ entry, ¬table.Calls validated gone entry) → R (.ok ()) (.ok ()))
    (bare : engine.inherited name = none) {properties : List (String × TypeNode)}
    {required : Option (List String)} {members : List (String × Json)}
    (declared : properties.lookup name = some gone) (free : name ∉ required.getD [])
    (hv : members.lookup name = some .null) :
    table.Relates validated items engine R (.object properties required) (.object members)
      (.object (members.filter fun member => member.1 != name)) := by
  refine relates_object kept declared (fun another apart => (lookup_filter_ne apart).symm)
    (fun asked => absurd asked free) ?_
  intro current cursor optional next ignorable checks patterns loose he scope other path hs ho
  rw [hv] at hs
  rw [lookup_filter_self, bare] at ho
  cases hr : gone.isReference with
  | false =>
    have plain : ∀ entry, ¬table.Calls validated gone entry := by
      rintro entry ⟨pointer, rfl, -⟩
      cases hr
    have lenient : optional = true ∨ gone.isComposite = false := .inl (loose free)
    refine .of_forall fun depth => ?_
    rw [he.execute_missing hr lenient hs (.inr rfl), he.execute_missing hr lenient ho (.inl rfl)]
    exact still plain
  | true =>
    cases gone with
    | reference pointer =>
      obtain ⟨entry, resolved, -, hc⟩ := he.reference
      split at hc
      next called =>
        filter_upwards [base entry ⟨pointer, rfl, resolved, called.2⟩] with depth related
        rw [hc.2, executeAll_singleton, executeAll_singleton, execute, execute, hs.value_eq,
          ho.value_eq]
        exact related
      next uncalled =>
        rw [hc.2]
        refine .of_forall fun depth => still ?_
        rintro other ⟨_, he, ho, checked⟩
        cases he
        cases Except.ok.inj (resolved.symm.trans ho)
        exact uncalled ⟨rfl, checked⟩
    | _ => cases hr

theorem relates_element (kept : KeptByRuns R) {items' : TypeNode} {additionalItems : Bool}
    {constraints : ArrayConstraints} {elements : List Json} {index : Nat} {value rest : Json}
    (free : constraints.uniqueItems = false) (hv : elements[index]? = some value)
    (ih : table.Relates validated items engine R items' value rest) :
    table.Relates validated items engine R (.array (some items') additionalItems constraints)
      (.list elements) (.list (elements.set index rest)) := by
  intro current cursor optional next ignorable checks patterns he scope other path hs ho
  obtain ⟨-, a, inner, hi, -, rfl⟩ := he.array
  obtain ⟨inside, -⟩ := List.getElem?_eq_some_iff.mp hv
  have sees := hs.element index
  have sees' := ho.element index
  rw [hv] at sees
  rw [List.getElem?_set_self inside] at sees'
  filter_upwards [ih hi sees sees'] with depth related
  rw [executeAll_arrayChecks hs, executeAll_arrayChecks ho, executeAll_append, executeAll_append,
    executeAll_loop hs, executeAll_loop ho, List.length_set]
  have own : engine.executeAll (engine.runValidator items depth)
      (items.flatMap FileItem.patterns) scope
      (unlessEmpty (!constraints.isEmpty) (.failUnless (.array constraints cursor) .array cursor)) =
      engine.executeAll (engine.runValidator items depth) (items.flatMap FileItem.patterns) other
        (unlessEmpty (!constraints.isEmpty)
          (.failUnless (.array constraints cursor) .array cursor)) := by
    have same : engine.accepts (items.flatMap FileItem.patterns) (.array constraints cursor)
        (some (.list (elements.set index rest))) =
          engine.accepts (items.flatMap FileItem.patterns) (.array constraints cursor)
            (some (.list elements)) := by
      simp [Engine.accepts, tolerates, Engine.admits, free]
    refine executeAll_unlessEmpty_congr ?_
    rw [execute_failUnless hs.value_eq hs.path_eq, execute_failUnless ho.value_eq ho.path_eq, same]
  rw [own]
  have last : index < 0 + elements.length := by rwa [Nat.zero_add]
  refine kept.behind ?_ _
  apply kept.eachPosition (fun position apart => hi.execute_congr ?_) ?_ (Nat.zero_le index) last
  · exact related
  · have here := hs.element position
    have there := ho.element position
    rw [List.getElem?_set_ne (Ne.symm apart)] at there
    exact here.alike there

theorem Drops.refersInto {node : TypeNode} {value rest : Json}
    (h : table.Drops name gone node value rest)
    (enters : ∀ entry ∈ table.entries, entry.node.RefersInto table validated →
      entry.ident ∈ validated)
    {entry : TypeEntry} (called : table.Calls validated gone entry) :
    node.RefersInto table validated := by
  induction h with
  | here declared =>
    obtain ⟨pointer, rfl, hr, checked⟩ := called
    exact ⟨pointer, entry, .property (mem_of_lookup declared) .here, hr, checked⟩
  | member declared _ _ ih =>
    obtain ⟨pointer, found, hw, hr⟩ := ih
    exact ⟨pointer, found, .property (mem_of_lookup declared) hw, hr⟩
  | element _ _ _ ih =>
    obtain ⟨pointer, found, hw, hr⟩ := ih
    exact ⟨pointer, found, .items hw, hr⟩
  | @reference pointer entry _ _ hr _ ih =>
    exact ⟨pointer, entry, .here, hr, enters entry (resolve_mem hr) ih⟩

section

variable (h : table.Renders .typescript modulePath text validated items file)
include h

/-- A type that refers to one with a validator has one as well. -/
theorem Renders.mem_validated_of_refersInto {entry : TypeEntry} (hm : entry ∈ table.entries)
    (refers : entry.node.RefersInto table validated) : entry.ident ∈ validated := by
  obtain ⟨pointer, other, hw, hr, checked⟩ := refers
  refine (h.closes.mem_iff table.sortedEntries_perm).mpr ⟨entry, hm, rfl, ?_⟩
  obtain ⟨found, hf, same, leads⟩ := (h.closes.mem_iff table.sortedEntries_perm).mp checked
  rw [eq_of_ident hf (resolve_mem hr) same] at leads
  obtain ⟨last, chain, reached⟩ : ∃ last, Relation.ReflTransGen table.Refers other last ∧
      IsChecked last := by
    simpa [LeadsToCheck, Target.dispatches] using leads
  simpa [LeadsToCheck, Target.dispatches] using
    (⟨last, .head ⟨pointer, hw, hr⟩ chain, reached⟩ : ∃ last, _ ∧ _)

theorem Renders.runValidator_unchecked {entry : TypeEntry} (hm : entry ∈ table.entries)
    (unchecked : entry.ident ∉ validated) (depth : Nat) (value : Json) :
    engine.runValidator items (depth + 1) entry.ident value = .ok () := by
  obtain ⟨start, item, hitem, -, found⟩ := h.exists_item hm
  have none := mt (h.mem_validatorIdents hm hitem).mp unchecked
  rw [Engine.runValidator, found]
  cases hitem with
  | enumeration => exact absurd rfl none
  | @type ignorable =>
    cases ignorable with
    | false => exact absurd rfl none
    | true => rfl

/-- The validator of a type does alike on two values if its checks do. -/
theorem Renders.related_runValidator {entry : TypeEntry} (hm : entry ∈ table.entries)
    (still : entry.ident ∉ validated → R (.ok ()) (.ok ())) {value rest : Json}
    (hd : table.Drops name gone entry.node value rest)
    (ih : table.Relates validated items engine R entry.node value rest) :
    ∀ᶠ depth in Filter.atTop, R (engine.runValidator items depth entry.ident value)
      (engine.runValidator items depth entry.ident rest) := by
  refine eventually_of_succ ?_
  by_cases checked : entry.ident ∈ validated
  · rcases h.runValidator_succ hm checked with ⟨values, hn, -⟩ | ⟨start, checks, used, he, run⟩
    · rw [hn] at hd
      cases hd
    · simpa only [run] using ih he (engine.sees_root value) (engine.sees_root rest)
  · refine .of_forall fun depth => ?_
    rw [h.runValidator_unchecked hm checked, h.runValidator_unchecked hm checked]
    exact still checked

/-- The checks of a type do alike on a value and on what is left of it without a null, if a call of
the validator for that null does so with doing nothing. -/
theorem Renders.relates (kept : KeptByRuns R) (bare : engine.inherited name = none)
    (base : ∀ entry, table.Calls validated gone entry → ∀ᶠ depth in Filter.atTop,
      R (engine.runValidator items depth entry.ident .null) (.ok ()))
    (still : (∀ entry, ¬table.Calls validated gone entry) → R (.ok ()) (.ok ()))
    {node : TypeNode} {value rest : Json} (hd : table.Drops name gone node value rest) :
    table.Relates validated items engine R node value rest := by
  have enters := fun (entry : TypeEntry) (hm : entry ∈ table.entries) =>
    h.mem_validated_of_refersInto hm
  induction hd with
  | here declared free hv => exact relates_here kept base still bare declared free hv
  | @member properties required members other node value rest declared hv _ ih =>
    refine relates_object kept declared
      (fun another apart => (lookup_insertMember_ne rest apart).symm)
      (fun _ => by rw [hv, lookup_insertMember_self]; rfl) ?_
    intro current cursor optional next ignorable checks patterns _ he scope other path hs ho
    rw [hv] at hs
    rw [lookup_insertMember_self] at ho
    exact ih he hs ho
  | element free hv _ ih => exact relates_element kept free hv ih
  | @reference pointer entry value rest hr inner ih =>
    intro current cursor optional next ignorable checks patterns he scope other path hs ho
    have unchecked (hn : entry.ident ∉ validated) : R (.ok ()) (.ok ()) :=
      still fun _ called => hn (enters entry (resolve_mem hr) (inner.refersInto enters called))
    obtain ⟨found, resolved, -, hc⟩ := he.reference
    cases Except.ok.inj (hr.symm.trans resolved)
    split at hc
    next =>
      filter_upwards [h.related_runValidator (resolve_mem hr) unchecked inner ih] with depth related
      rw [hc.2, executeAll_singleton, executeAll_singleton, execute, execute, hs.value_eq,
        ho.value_eq]
      exact related
    next uncalled =>
      rw [hc.2]
      exact .of_forall fun _ => unchecked fun checked => uncalled ⟨rfl, checked⟩

/-- The same for the validator of a type. -/
theorem Renders.relates_runValidator (kept : KeptByRuns R) (bare : engine.inherited name = none)
    (base : ∀ entry, table.Calls validated gone entry → ∀ᶠ depth in Filter.atTop,
      R (engine.runValidator items depth entry.ident .null) (.ok ()))
    (still : (∀ entry, ¬table.Calls validated gone entry) → R (.ok ()) (.ok ()))
    {entry : TypeEntry} (hm : entry ∈ table.entries) {value rest : Json}
    (hd : table.Drops name gone entry.node value rest) :
    ∀ᶠ depth in Filter.atTop, R (engine.runValidator items depth entry.ident value)
      (engine.runValidator items depth entry.ident rest) := by
  have enters := fun (entry : TypeEntry) (hm : entry ∈ table.entries) =>
    h.mem_validated_of_refersInto hm
  refine h.related_runValidator hm (fun unchecked => still fun _ called => ?_) hd
    (h.relates kept bare base still hd)
  exact unchecked (enters entry hm (hd.refersInto enters called))

end

end TypeTable

end CheckedTypes
