import CheckedTypes.Proofs.SortedType
import CheckedTypes.Proofs.ValidatorRows

namespace CheckedTypes

/-- The members of a list with their numbers, counted on from `next`. -/
def numbered {α β : Type} (next : Nat) (f : Nat → α → β) (list : List α) : List β :=
  list.mapIdx fun index => f (next + index)

section

variable {α β γ : Type} (next : Nat) (f : Nat → α → β) (list more : List α)

theorem numbered_append :
    numbered next f (list ++ more) =
      numbered next f list ++ numbered (next + list.length) f more := by
  simp only [numbered, List.mapIdx_append, Nat.add_assoc, Nat.add_comm list.length]

theorem map_numbered (g : β → γ) :
    (numbered next f list).map g = numbered next (fun index a => g (f index a)) list :=
  List.ext_getElem (by simp [numbered]) fun index _ _ => by simp [numbered]

theorem numbered_map (g : γ → α) (list : List γ) :
    numbered next f (list.map g) = numbered next (fun index a => f index (g a)) list :=
  List.ext_getElem (by simp [numbered]) fun index _ _ => by simp [numbered]

theorem numbered_index : numbered 0 (fun index (_ : α) => index) list = List.range list.length :=
  List.ext_getElem (by simp [numbered]) fun index _ _ => by simp [numbered]

end

/-- A type where it stands in another, and whether it may be absent there. -/
structure TypePlace where
  cursor : Cursor
  optional : Bool
  node : TypeNode

namespace TypeNode

mutual
/-- The type and the parts of it in the order in which they are visited. -/
def places (cursor : Cursor) (optional : Bool) : TypeNode → List TypePlace
  | .array (some items) additionalItems constraints =>
    ⟨cursor, optional, .array (some items) additionalItems constraints⟩ ::
      items.places cursor.element false
  | .object properties required =>
    ⟨cursor, optional, .object properties required⟩ ::
      propertyPlaces cursor (required.getD []) properties
  | node => [⟨cursor, optional, node⟩]
def propertyPlaces (cursor : Cursor) (required : List String) :
    List (String × TypeNode) → List TypePlace
  | [] => []
  | (name, node) :: rest =>
    node.places (cursor.field name) (!required.contains name) ++
      propertyPlaces cursor required rest
end

instance (table : TypeTable) : DecidablePred (Supported table)
  | .array _ _ _ => inferInstanceAs (Decidable (_ ∧ _))
  | .object properties _ =>
    inferInstanceAs (Decidable (properties.map fun property => renderName property.1).Nodup)
  | .enumeration _ => .isFalse id
  | .reference pointer =>
    match h : table.resolve pointer with
    | .ok entry => .isTrue ⟨entry, h⟩
    | .error _ => .isFalse fun ⟨_, he⟩ => by cases h.symm.trans he
  | .null | .boolean | .integer _ | .number _ | .string _ => .isTrue trivial

def pattern? : TypeNode → Option String
  | .string constraints => constraints.pattern
  | _ => none

end TypeNode

/-- The emitter goes on until it meets a type that cannot be generated. -/
def visitedPlaces (table : TypeTable) (places : List TypePlace) : List TypePlace :=
  places.takeWhile fun place => place.node.Supported table

theorem visitedPlaces_eq_self {table : TypeTable} {places : List TypePlace}
    (h : ∀ place ∈ places, place.node.Supported table) : visitedPlaces table places = places :=
  List.takeWhile_eq_self_iff.mpr fun place hm => decide_eq_true (h place hm)

theorem visitedPlaces_of_supported {table : TypeTable} {places : List TypePlace}
    (h : ∀ place ∈ places, place.node.Supported table) (more : List TypePlace) :
    visitedPlaces table (places ++ more) = places ++ visitedPlaces table more :=
  List.takeWhile_append_of_pos fun place hm => decide_eq_true (h place hm)

theorem visitedPlaces_of_not_supported {table : TypeTable} {places : List TypePlace}
    (h : ¬∀ place ∈ places, place.node.Supported table) (more : List TypePlace) :
    visitedPlaces table (places ++ more) = visitedPlaces table places := by
  induction places with
  | nil => exact absurd (fun _ hm => absurd hm List.not_mem_nil) h
  | cons place rest ih =>
    unfold visitedPlaces at ih ⊢
    rw [List.cons_append, List.takeWhile_cons, List.takeWhile_cons]
    split
    next hp =>
      rw [ih fun others => h (List.forall_mem_cons.mpr ⟨of_decide_eq_true hp, others⟩)]
    next => rfl

namespace Emission

theorem within_ok_iff {before after : List Piece} {emission : Emission}
    {finish : Bool → List Statement → Bool × List Statement} :
    (∃ result, (emission.within before after finish).outcome = .ok result) ↔
      ∃ result, emission.outcome = .ok result := by
  constructor
  · rintro ⟨result, h⟩
    obtain ⟨ignorable, checks, ho, -⟩ := within_ok h
    exact ⟨_, ho⟩
  · rintro ⟨⟨ignorable, checks⟩, ho⟩
    exact ⟨_, within_outcome ho⟩

theorem andThen_ok_iff {first second : Emission} :
    (∃ result, (first.andThen second).outcome = .ok result) ↔
      (∃ result, first.outcome = .ok result) ∧ ∃ result, second.outcome = .ok result := by
  constructor
  · rintro ⟨⟨ignorable, checks⟩, h⟩
    obtain ⟨a, b, earlier, more, hf, hs, -⟩ := andThen_ok h
    exact ⟨⟨_, hf⟩, _, hs⟩
  · rintro ⟨⟨⟨a, checks⟩, hf⟩, ⟨b, more⟩, hs⟩
    exact ⟨_, andThen_outcome hf hs⟩

theorem andThen_patterns {first second : Emission} (h : ∃ result, first.outcome = .ok result) :
    (first.andThen second).patterns = first.patterns ++ second.patterns := by
  obtain ⟨result, h⟩ := h
  simp [andThen, h]

theorem andThen_patterns_of_failed {first second : Emission}
    (h : ¬∃ result, first.outcome = .ok result) :
    (first.andThen second).patterns = first.patterns := by
  unfold andThen
  split
  next => rfl
  next ho => exact absurd ⟨_, ho⟩ h

end Emission

namespace EmissionContext

/-- An emission has the patterns of the places that are visited, and it fails if one of them is
not supported. -/
structure Visits (context : EmissionContext) (places : List TypePlace) (emission : Emission) :
    Prop where
  patterns_eq : emission.patterns =
    (visitedPlaces context.table places).filterMap fun place => place.node.pattern?
  ok_iff : (∃ result, emission.outcome = .ok result) ↔
    ∀ place ∈ places, place.node.Supported context.table

variable {context : EmissionContext} {cursor : Cursor} {optional : Bool} {next : Nat}

theorem Visits.failed {node : TypeNode} (h : ¬node.Supported context.table)
    (places : List TypePlace) (fault : GenerateError) :
    context.Visits (⟨cursor, optional, node⟩ :: places) (.failed fault) where
  patterns_eq := by simp [visitedPlaces, h, Emission.failed]
  ok_iff := iff_of_false (by simp [Emission.failed]) fun each => h (each _ List.mem_cons_self)

/-- A part that is no string comes before the parts of it. -/
theorem Visits.within {places : List TypePlace} {emission : Emission}
    (h : context.Visits places emission) {node : TypeNode}
    (supported : node.Supported context.table) (silent : node.pattern? = none)
    (before after : List Piece) (finish : Bool → List Statement → Bool × List Statement) :
    context.Visits (⟨cursor, optional, node⟩ :: places) (emission.within before after finish) where
  patterns_eq := by
    rw [Emission.within_patterns, h.patterns_eq]
    simp [visitedPlaces, supported, silent]
  ok_iff := by
    rw [Emission.within_ok_iff, h.ok_iff, List.forall_mem_cons, and_iff_right supported]

theorem Visits.andThen {places others : List TypePlace} {first second : Emission}
    (h : context.Visits places first) (h' : context.Visits others second) :
    context.Visits (places ++ others) (first.andThen second) where
  patterns_eq := by
    by_cases ok : ∃ result, first.outcome = .ok result
    · have supported := h.ok_iff.mp ok
      rw [Emission.andThen_patterns ok, h.patterns_eq, h'.patterns_eq,
        visitedPlaces_eq_self supported, visitedPlaces_of_supported supported,
        List.filterMap_append]
    · have unsupported := mt h.ok_iff.mpr ok
      rw [Emission.andThen_patterns_of_failed ok, h.patterns_eq,
        visitedPlaces_of_not_supported unsupported]
  ok_iff := by
    rw [Emission.andThen_ok_iff, h.ok_iff, h'.ok_iff, List.forall_mem_append]

theorem visits_members {required : List String} {properties : List (String × TypeNode)}
    (each : ∀ name node, (name, node) ∈ properties → ∀ cursor optional next,
      context.Visits (node.places cursor optional) (context.emission cursor optional next node)) :
    context.Visits (TypeNode.propertyPlaces cursor required properties)
      (context.memberEmissions cursor required next properties) := by
  induction properties generalizing next with
  | nil => exact ⟨rfl, iff_of_true ⟨_, rfl⟩ fun _ hm => absurd hm List.not_mem_nil⟩
  | cons property rest ih =>
    obtain ⟨name, node⟩ := property
    have member := each name node List.mem_cons_self (cursor.field name) (!required.contains name)
      next
    rw [memberEmissions, TypeNode.propertyPlaces]
    refine Visits.andThen ⟨?_, ?_⟩ (ih fun other part hm => each other part
      (List.mem_cons_of_mem _ hm))
    · rw [Emission.within_patterns, member.patterns_eq]
    · rw [Emission.within_ok_iff, member.ok_iff]

/-- Whether or not it fails, an emission has the patterns of the strings it visits. -/
theorem visits_emission (context : EmissionContext) (node : TypeNode) (cursor : Cursor)
    (optional : Bool) (next : Nat) :
    context.Visits (node.places cursor optional) (context.emission cursor optional next node) := by
  induction node generalizing cursor optional next with
  | null | boolean | integer | number =>
    exact ⟨rfl, iff_of_true ⟨_, rfl⟩ fun _ hm => List.mem_singleton.mp hm ▸ trivial⟩
  | string constraints =>
    refine ⟨?_, iff_of_true ⟨_, rfl⟩ fun _ hm => List.mem_singleton.mp hm ▸ trivial⟩
    change constraints.pattern.toList = List.filterMap _ [_]
    cases hp : constraints.pattern <;> simp [TypeNode.pattern?, hp]
  | bareArray additionalItems constraints =>
    rw [emission]
    split <;> exact .failed (fun supported => by simpa using supported.1) [] _
  | array items additionalItems constraints ih =>
    rw [emission, TypeNode.places]
    split
    next additional => exact .failed (fun supported => by simp [supported.2] at additional) _ _
    next single =>
      have supported : (TypeNode.array (some items) additionalItems constraints).Supported
          context.table := ⟨rfl, by simpa using single⟩
      exact (ih cursor.element false next).within supported rfl _ _ _
  | object properties required ih =>
    have apart : collision? [] (properties.map Prod.fst) = none ↔
        (TypeNode.object properties required).Supported context.table := by
      rw [collision?_eq_none_iff, List.map_map]
      exact and_iff_left (by simp)
    rw [emission, TypeNode.places]
    split
    next hc => exact .failed (fun supported => by simp [apart.mpr supported] at hc) _ _
    next hc =>
      exact (visits_members fun name node hm => ih name node hm).within (apart.mp hc) rfl _ _ _
  | enumeration => exact .failed id [] _
  | reference pointer =>
    rw [emission]
    split
    next fault hr =>
      refine .failed ?_ [] _
      rintro ⟨entry, he⟩
      cases hr.symm.trans he
    next entry hr =>
      dsimp only
      have supported : (TypeNode.reference pointer).Supported context.table := ⟨entry, hr⟩
      change EmissionContext.Visits context [⟨cursor, optional, .reference pointer⟩] _
      split <;> exact ⟨by simp [visitedPlaces, supported, TypeNode.pattern?, Emission.checked,
        Emission.unchecked], iff_of_true ⟨_, rfl⟩ fun _ hm => List.mem_singleton.mp hm ▸ supported⟩

end EmissionContext

end CheckedTypes
