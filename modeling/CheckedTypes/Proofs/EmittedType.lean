import CheckedTypes.Emission
import CheckedTypes.Proofs.NodePart
import Mathlib.Data.List.Sort
import Mathlib.Data.List.Nodup

namespace CheckedTypes

theorem TypeNode.sortedProperties_eq_map (properties : List (String × TypeNode)) :
    sortedProperties properties =
      properties.map fun property => (property.1, property.2.sorted) := by
  induction properties with
  | nil => rfl
  | cons property rest ih =>
    obtain ⟨name, node⟩ := property
    rw [sortedProperties, ih]
    rfl

/-- Sorting the properties does not look at the types. -/
theorem sortByName_map {α β : Type} (f : α → β) (named : List (String × α)) :
    sortByName (named.map fun entry => (entry.1, f entry.2)) =
      (sortByName named).map fun entry => (entry.1, f entry.2) :=
  (List.map_mergeSort (f := fun entry : String × α => (entry.1, f entry.2))
    fun _ _ _ _ => rfl).symm

theorem nodup_apart_cons {α : Type} {a : α} {rest seen : List α} :
    ((a :: rest).Nodup ∧ ∀ b ∈ a :: rest, b ∉ seen) ↔
      a ∉ seen ∧ rest.Nodup ∧ ∀ b ∈ rest, b ∉ a :: seen := by
  rw [List.nodup_cons, List.forall_mem_cons]
  constructor
  · rintro ⟨⟨new, nodup⟩, fresh, apart⟩
    refine ⟨fresh, nodup, fun b hb hm => ?_⟩
    rcases List.mem_cons.mp hm with rfl | hm
    · exact new hb
    · exact apart b hb hm
  · rintro ⟨fresh, nodup, apart⟩
    exact ⟨⟨fun hm => apart a hm List.mem_cons_self, nodup⟩, fresh,
      fun b hb hm => apart b hb (List.mem_cons_of_mem _ hm)⟩

/-- Names do not collide exactly if all of them render differently, also from those seen before. -/
theorem collision?_eq_none_iff {seen names : List String} :
    collision? seen names = none ↔ (names.map renderName).Nodup ∧
      ∀ name ∈ names, renderName name ∉ seen.map renderName := by
  induction names generalizing seen with
  | nil => simp [collision?]
  | cons name rest ih =>
    have first : (seen.find? fun other => renderName other == renderName name) = none ↔
        renderName name ∉ seen.map renderName := by
      simp [List.find?_eq_none]
    have step := @nodup_apart_cons _ (renderName name) (rest.map renderName) (seen.map renderName)
    rw [← List.map_cons, List.forall_mem_map, List.forall_mem_map] at step
    rw [collision?, step, ← first]
    split
    next other hf => simp [hf]
    next hf =>
      rw [ih]
      simp [hf, or_comm]

/-- Names that all render differently are different. -/
theorem nodup_of_collision? {names : List String} (h : collision? [] names = none) :
    names.Nodup :=
  .of_map _ (collision?_eq_none_iff.mp h).1

namespace Emission

theorem within_ok {before after : List Piece} {emission : Emission}
    {finish : Bool → List Statement → Bool × List Statement} {result : Bool × List Statement}
    (h : (emission.within before after finish).outcome = .ok result) :
    ∃ ignorable checks, emission.outcome = .ok (ignorable, checks) ∧
      finish ignorable checks = result := by
  unfold within at h
  split at h
  next => simp at h
  next ignorable checks he => exact ⟨ignorable, checks, he, Except.ok.inj h⟩

theorem within_outcome {before after : List Piece} {emission : Emission}
    {finish : Bool → List Statement → Bool × List Statement} {ignorable : Bool}
    {checks : List Statement} (h : emission.outcome = .ok (ignorable, checks)) :
    (emission.within before after finish).outcome = .ok (finish ignorable checks) := by
  simp only [within, h]

@[simp] theorem within_patterns {before after : List Piece} {emission : Emission}
    {finish : Bool → List Statement → Bool × List Statement} :
    (emission.within before after finish).patterns = emission.patterns := by
  unfold within
  split <;> rfl

theorem andThen_ok {first second : Emission} {ignorable : Bool} {checks : List Statement}
    (h : (first.andThen second).outcome = .ok (ignorable, checks)) :
    ∃ a b earlier more, first.outcome = .ok (a, earlier) ∧ second.outcome = .ok (b, more) ∧
      ignorable = (a && b) ∧ checks = earlier ++ more ∧
      (first.andThen second).patterns = first.patterns ++ second.patterns := by
  unfold andThen at h ⊢
  split at h
  next he => rw [he] at h; cases h
  next a checks he =>
    cases hs : second.outcome with
    | error fault => simp [hs, Except.map] at h
    | ok rest =>
      obtain ⟨b, more⟩ := rest
      simp only [hs, Except.map, Except.ok.injEq, Prod.mk.injEq] at h
      exact ⟨a, b, checks, more, he, rfl, h.1.symm, h.2.symm, rfl⟩

theorem andThen_outcome {first second : Emission} {a b : Bool} {checks more : List Statement}
    (hf : first.outcome = .ok (a, checks)) (hs : second.outcome = .ok (b, more)) :
    (first.andThen second).outcome = .ok (a && b, checks ++ more) := by
  simp only [andThen, hf, hs, Except.map]

theorem within_declaration {before after : List Piece} {emission : Emission}
    {finish : Bool → List Statement → Bool × List Statement} {result : Bool × List Statement}
    (h : emission.outcome = .ok result) :
    (emission.within before after finish).declaration =
      before ++ emission.declaration ++ after := by
  simp [within, h]

theorem andThen_declaration {first second : Emission} {result : Bool × List Statement}
    (h : first.outcome = .ok result) :
    (first.andThen second).declaration = first.declaration ++ second.declaration := by
  simp [andThen, h]

end Emission

namespace EmissionContext

/-- A type is emitted at a place with these checks and patterns. -/
structure Emits (context : EmissionContext) (cursor : Cursor) (optional : Bool) (next : Nat)
    (node : TypeNode) (ignorable : Bool) (checks : List Statement) (patterns : List String) :
    Prop where
  outcome : (context.emission cursor optional next node.sorted).outcome = .ok (ignorable, checks)
  patterns_eq : (context.emission cursor optional next node.sorted).patterns = patterns

/-- The members of an object are emitted one after the other. -/
inductive EmitsMembers (context : EmissionContext) (cursor : Cursor) (required : List String) :
    Nat → List (String × TypeNode) → Bool → List Statement → List String → Prop
  | nil {next} : EmitsMembers context cursor required next [] true [] []
  | cons {next name node rest a b checks more patterns others} :
      context.Emits (cursor.field name) (!required.contains name) next node a checks patterns →
      EmitsMembers context cursor required (next + patterns.length) rest b more others →
      EmitsMembers context cursor required next ((name, node) :: rest) (a && b) (checks ++ more)
        (patterns ++ others)

variable {context : EmissionContext} {cursor : Cursor} {optional : Bool} {next : Nat}
  {ignorable : Bool} {checks : List Statement} {patterns : List String}

theorem emitsMembers_of_ok {required : List String} {properties : List (String × TypeNode)}
    (h : (context.memberEmissions cursor required next
      (properties.map fun property => (property.1, property.2.sorted))).outcome =
        .ok (ignorable, checks)) :
    context.EmitsMembers cursor required next properties ignorable checks
      (context.memberEmissions cursor required next
        (properties.map fun property => (property.1, property.2.sorted))).patterns := by
  induction properties generalizing next ignorable checks with
  | nil =>
    obtain ⟨rfl, rfl⟩ := Prod.mk.inj (Except.ok.inj h)
    exact .nil
  | cons property rest ih =>
    obtain ⟨name, node⟩ := property
    rw [List.map_cons, memberEmissions] at h ⊢
    obtain ⟨a, b, first, more, hf, hr, rfl, rfl, hp⟩ := Emission.andThen_ok h
    obtain ⟨_, _, he, heq⟩ := Emission.within_ok hf
    obtain ⟨rfl, rfl⟩ := Prod.mk.inj heq
    rw [hp, Emission.within_patterns]
    rw [Emission.within_patterns] at hr
    exact .cons ⟨he, rfl⟩ (ih hr)

/-- What holds of no checks, of the checks of each member and of such checks put together, holds
of the checks of all members. -/
theorem EmitsMembers.closed {required : List String} {properties : List (String × TypeNode)}
    {P : Bool → List Statement → List String → Prop}
    (h : context.EmitsMembers cursor required next properties ignorable checks patterns)
    (nil : P true [] [])
    (append : ∀ {a b checks more patterns others}, P a checks patterns → P b more others →
      P (a && b) (checks ++ more) (patterns ++ others))
    (each : ∀ name node, (name, node) ∈ properties → ∀ {next a checks patterns},
      context.Emits (cursor.field name) (!required.contains name) next node a checks patterns →
        P a checks patterns) :
    P ignorable checks patterns := by
  induction h with
  | nil => exact nil
  | cons first _ ih =>
    exact append (each _ _ List.mem_cons_self first)
      (ih fun name node hm => each name node (List.mem_cons_of_mem _ hm))

theorem Emits.null (h : context.Emits cursor optional next .null ignorable checks patterns) :
    ignorable = true ∧ checks = [] ∧ patterns = [] := by
  obtain ⟨ho, rfl⟩ := h
  obtain ⟨rfl, rfl⟩ := Prod.mk.inj (Except.ok.inj ho)
  exact ⟨rfl, rfl, rfl⟩

theorem Emits.boolean (h : context.Emits cursor optional next .boolean ignorable checks patterns) :
    ignorable = true ∧ checks = [] ∧ patterns = [] := by
  obtain ⟨ho, rfl⟩ := h
  obtain ⟨rfl, rfl⟩ := Prod.mk.inj (Except.ok.inj ho)
  exact ⟨rfl, rfl, rfl⟩

theorem Emits.integer {constraints : NumericConstraints}
    (h : context.Emits cursor optional next (.integer constraints) ignorable checks patterns) :
    ignorable = constraints.isEmpty ∧ patterns = [] ∧
      checks = unlessEmpty (!constraints.isEmpty)
        (.failUnless (.integer constraints cursor optional) .integer cursor) := by
  obtain ⟨ho, rfl⟩ := h
  obtain ⟨rfl, rfl⟩ := Prod.mk.inj (Except.ok.inj ho)
  exact ⟨rfl, rfl, rfl⟩

theorem Emits.number {constraints : NumericConstraints}
    (h : context.Emits cursor optional next (.number constraints) ignorable checks patterns) :
    ignorable = constraints.isEmpty ∧ patterns = [] ∧
      checks = unlessEmpty (!constraints.isEmpty)
        (.failUnless (.number constraints cursor optional) .number cursor) := by
  obtain ⟨ho, rfl⟩ := h
  obtain ⟨rfl, rfl⟩ := Prod.mk.inj (Except.ok.inj ho)
  exact ⟨rfl, rfl, rfl⟩

theorem Emits.string {constraints : StringConstraints}
    (h : context.Emits cursor optional next (.string constraints) ignorable checks patterns) :
    ignorable = constraints.isEmpty ∧ patterns = constraints.pattern.toList ∧
      checks = unlessEmpty constraints.hasLength
          (.failUnless (.length constraints cursor optional) .stringLength cursor) ++
        unlessEmpty constraints.pattern.isSome
          (.failUnless (.pattern next cursor optional) .stringPattern cursor) := by
  obtain ⟨ho, rfl⟩ := h
  obtain ⟨rfl, rfl⟩ := Prod.mk.inj (Except.ok.inj ho)
  exact ⟨rfl, rfl, rfl⟩

theorem not_emits_bareArray {additionalItems : Bool} {constraints : ArrayConstraints} :
    ¬context.Emits cursor optional next (.array none additionalItems constraints) ignorable checks
      patterns := by
  rintro ⟨ho, -⟩
  simp only [TypeNode.sorted, emission] at ho
  split at ho <;> simp [Emission.failed] at ho

theorem Emits.array {items : TypeNode} {additionalItems : Bool} {constraints : ArrayConstraints}
    (h : context.Emits cursor optional next (.array (some items) additionalItems constraints)
      ignorable checks patterns) :
    additionalItems = false ∧ ∃ a elements,
      context.Emits cursor.element false next items a elements patterns ∧
      ignorable = (a && constraints.isEmpty) ∧
      checks = arrayChecks cursor optional constraints elements := by
  obtain ⟨ho, hp⟩ := h
  simp only [TypeNode.sorted, emission] at ho hp
  split at ho
  next => simp [Emission.failed] at ho
  next ha =>
    obtain ⟨a, elements, he, hr⟩ := Emission.within_ok ho
    obtain ⟨rfl, rfl⟩ := Prod.mk.inj hr
    rw [if_neg ha, Emission.within_patterns] at hp
    exact ⟨by simpa using ha, a, elements, ⟨he, hp⟩, rfl, rfl⟩

/-- The properties of an object are emitted in the order of their names. -/
theorem emission_sorted_object (context : EmissionContext) (cursor : Cursor) (optional : Bool)
    (next : Nat) (properties : List (String × TypeNode)) (required : Option (List String)) :
    context.emission cursor optional next (TypeNode.object properties required).sorted =
      let asked := TypeNode.requiredNames (sortByName properties) required
      match collision? [] ((sortByName properties).map Prod.fst) with
      | some (first, second) => .failed (context.collisionError cursor first second)
      | none =>
        (context.memberEmissions cursor asked next ((sortByName properties).map fun property =>
          (property.1, property.2.sorted))).within (context.target.recordStart optional)
            context.target.recordEnd fun ignorable members =>
              (ignorable && asked.isEmpty, objectChecks cursor optional asked members) := by
  have names : ∀ sorted : List (String × TypeNode),
      (sorted.map fun property => (property.1, property.2.sorted)).map Prod.fst =
        sorted.map Prod.fst := by simp
  have same : ∀ sorted : List (String × TypeNode),
      TypeNode.requiredNames (sorted.map fun property => (property.1, property.2.sorted)) required =
        TypeNode.requiredNames sorted required := by simp [TypeNode.requiredNames, names]
  simp only [TypeNode.sorted, TypeNode.sortedProperties_eq_map, sortByName_map]
  cases hc : collision? [] ((sortByName properties).map Prod.fst) with
  | some pair => simp only [emission, names, hc]
  | none => simp only [emission, names, same, hc, Option.getD_some]

theorem Emits.object {properties : List (String × TypeNode)} {required : Option (List String)}
    (h : context.Emits cursor optional next (.object properties required) ignorable checks
      patterns) :
    collision? [] ((sortByName properties).map Prod.fst) = none ∧ ∃ a members,
      context.EmitsMembers cursor (TypeNode.requiredNames (sortByName properties) required) next
        (sortByName properties) a members patterns ∧
      ignorable = (a && (TypeNode.requiredNames (sortByName properties) required).isEmpty) ∧
      checks = objectChecks cursor optional
        (TypeNode.requiredNames (sortByName properties) required) members := by
  obtain ⟨ho, hp⟩ := h
  rw [emission_sorted_object] at ho hp
  dsimp only at ho hp
  split at ho
  next => simp [Emission.failed] at ho
  next hc =>
    obtain ⟨a, members, he, hr⟩ := Emission.within_ok ho
    obtain ⟨rfl, rfl⟩ := Prod.mk.inj hr
    rw [hc] at hp
    simp only [Emission.within_patterns] at hp
    exact ⟨hc, a, members, hp ▸ emitsMembers_of_ok he, rfl, rfl⟩

theorem not_emits_enumeration {values : List String} :
    ¬context.Emits cursor optional next (.enumeration values) ignorable checks patterns := by
  rintro ⟨ho, -⟩
  simp [TypeNode.sorted, emission, Emission.failed] at ho

theorem Emits.reference {pointer : String}
    (h : context.Emits cursor optional next (.reference pointer) ignorable checks patterns) :
    ∃ entry, context.table.resolve pointer = .ok entry ∧ patterns = [] ∧
      (if context.target.dispatches ∧ entry.ident ∈ context.validated then
        ignorable = false ∧ checks = [.dispatch entry.ident cursor]
      else ignorable = true ∧ checks = []) := by
  obtain ⟨ho, hp⟩ := h
  simp only [TypeNode.sorted, emission] at ho hp
  cases hr : context.table.resolve pointer with
  | error fault => simp [hr, Emission.failed] at ho
  | ok entry =>
    refine ⟨entry, rfl, ?_⟩
    simp only [hr, List.contains_eq_mem, Bool.and_eq_true, decide_eq_true_eq] at ho hp
    split
    next hv =>
      rw [if_pos hv] at ho hp
      obtain ⟨rfl, rfl⟩ := Prod.mk.inj (Except.ok.inj ho)
      exact ⟨hp.symm, rfl, rfl⟩
    next hv =>
      rw [if_neg hv] at ho hp
      obtain ⟨rfl, rfl⟩ := Prod.mk.inj (Except.ok.inj ho)
      exact ⟨hp.symm, rfl, rfl⟩

end EmissionContext

end CheckedTypes
