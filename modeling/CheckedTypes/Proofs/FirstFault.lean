import CheckedTypes.Proofs.SortedType
import CheckedTypes.Proofs.ValidatorRows
import Mathlib

namespace CheckedTypes

/-- A step in brackets: a name in quotes, or the number of the arrays that are entered before. -/
def DescentStep.text (entered : Nat) : DescentStep → String
  | .field name => "[" ++ quote name ++ "]"
  | .element => "[i" ++ toString entered ++ "]"

def descentText (steps : List DescentStep) : String :=
  String.join (steps.mapIdx fun index step => step.text ((steps.take index).count .element))

theorem map_rawFrom {f : RawSegment → String}
    (key : ∀ name entered, f (.key name) = (DescentStep.field name).text entered)
    (index : ∀ level, f (.index level) = DescentStep.element.text level) (level : Nat)
    (steps : List DescentStep) :
    (Cursor.rawFrom level steps).map f =
      steps.mapIdx fun index step => step.text (level + (steps.take index).count .element) := by
  induction steps generalizing level with
  | nil => rfl
  | cons step rest ih =>
    cases step with
    | field name =>
      rw [Cursor.rawFrom, List.map_cons, ih, List.mapIdx_cons, key name level]
      simp
    | element =>
      rw [Cursor.rawFrom, List.map_cons, ih, List.mapIdx_cons, index]
      simp [Nat.add_assoc, Nat.add_comm 1]

theorem Cursor.display_eq (cursor : Cursor) : cursor.display = descentText cursor.steps := by
  have index (level : Nat) : "[" ++ loopVariable level ++ "]" = DescentStep.element.text level := by
    simp only [loopVariable, DescentStep.text, ← String.append_assoc]
    rfl
  unfold display descentText raw
  rw [map_rawFrom (fun _ _ => rfl) index]
  simp only [Nat.zero_add]

/-- One member comes before another if its name does. -/
def DescentStep.Before : DescentStep → DescentStep → Prop
  | .field name, .field other => name < other
  | _, _ => False

/-- The order in which the parts of a type are visited: a type before its parts, and members by
their names. -/
def VisitedBefore : List DescentStep → List DescentStep → Prop :=
  List.Lex DescentStep.Before

theorem DescentStep.Before.asymm {step other : DescentStep} (h : step.Before other) :
    ¬other.Before step := by
  cases step with
  | element => exact h.elim
  | field name =>
    cases other with
    | element => exact h.elim
    | field other => exact lt_asymm (show name < other from h)

theorem VisitedBefore.asymm {path other : List DescentStep} (h : VisitedBefore path other) :
    ¬VisitedBefore other path := by
  induction h with
  | nil => nofun
  | cons _ ih =>
    intro back
    cases back with
    | cons back => exact ih back
    | rel before => exact before.asymm before
  | rel before =>
    intro back
    cases back with
    | cons => exact before.asymm before
    | rel back => exact before.asymm back

namespace TypeNode

/-- A type stands in another where a path leads to. -/
inductive At (part : TypeNode) : List DescentStep → TypeNode → Prop
  | here : At part [] part
  | items {path items additionalItems constraints} : At part path items →
      At part (.element :: path) (.array (some items) additionalItems constraints)
  | property {path name node properties required} : (name, node) ∈ properties →
      At part path node → At part (.field name :: path) (.object properties required)

theorem within_iff_exists_at {part node : TypeNode} :
    part.Within node ↔ ∃ path, part.At path node := by
  constructor
  · intro h
    induction h with
    | here => exact ⟨[], .here⟩
    | items _ ih => exact ih.imp' _ fun _ => .items
    | property hm _ ih => exact ih.imp' _ fun _ => .property hm
  · rintro ⟨path, h⟩
    induction h with
    | here => exact .here
    | items _ ih => exact .items ih
    | property hm _ ih => exact .property hm ih

/-- Why a type cannot be generated that stands at some place, whatever its parts are. Of properties
that render alike the first in the order of names is to blame that has one like it before it. -/
inductive Refused (table : TypeTable) (place : String) : TypeNode → GenerateError → Prop
  | additionalItems {items constraints} : Refused table place (.array items true constraints)
      (.unsupportedShape place "additional items are not supported, only single type arrays")
  | bareArray {constraints} : Refused table place (.array none false constraints)
      (.schemaShape place "array must have item type")
  | collision {properties required before name after earlier} :
      (sortByName properties).map Prod.fst = before ++ name :: after →
      (before.map renderName).Nodup → earlier ∈ before → renderName earlier = renderName name →
      Refused table place (.object properties required)
        (.duplicateDefinition (place ++ "." ++ renderName name ++ " (properties " ++
          showQuoted earlier ++ " and " ++ showQuoted name ++ ")"))
  | enumeration {values} : Refused table place (.enumeration values)
      (.unsupportedShape place "inline enum is not supported, move it to a definition and $ref it")
  | reference {pointer fault} : table.resolve pointer = .error fault →
      Refused table place (.reference pointer) fault

end TypeNode

/-- The first name that renders like one before it is found, with that one. -/
theorem collision?_eq_some_iff {seen names : List String} {earlier name : String}
    (apart : (seen.map renderName).Nodup) :
    collision? seen names = some (earlier, name) ↔
      ∃ before after, names = before ++ name :: after ∧
        ((seen ++ before).map renderName).Nodup ∧ earlier ∈ seen ++ before ∧
          renderName earlier = renderName name := by
  induction names generalizing seen with
  | nil => simp [collision?]
  | cons first rest ih =>
    rw [collision?]
    split
    next other hf =>
      have like : renderName other = renderName first := by simpa using List.find?_some hf
      have found := List.mem_of_find?_eq_some hf
      constructor
      · intro h
        obtain ⟨rfl, rfl⟩ := Prod.mk.inj (Option.some.inj h)
        exact ⟨[], rest, rfl, by simpa using apart, by simpa using found, like⟩
      · rintro ⟨before, after, split, nodup, hm, same⟩
        cases before with
        | nil =>
          obtain ⟨rfl, rfl⟩ := List.cons.inj split
          rw [List.append_nil] at nodup hm
          rw [List.inj_on_of_nodup_map nodup found hm (like.trans same.symm)]
        | cons head before =>
          obtain ⟨rfl, rfl⟩ := List.cons.inj split
          rw [List.map_append, List.nodup_append] at nodup
          exact absurd like (nodup.2.2 _ (List.mem_map_of_mem found) _ (by simp))
    next hf =>
      have fresh : ∀ other ∈ seen, renderName other ≠ renderName first := by
        simpa [List.find?_eq_none] using hf
      have longer : ((seen ++ [first]).map renderName).Nodup := by
        simpa [List.nodup_append, apart] using fresh
      rw [ih longer]
      constructor
      · rintro ⟨before, after, rfl, nodup, hm, same⟩
        rw [List.append_assoc] at nodup hm
        exact ⟨first :: before, after, rfl, nodup, hm, same⟩
      · rintro ⟨before, after, split, nodup, hm, same⟩
        cases before with
        | nil =>
          obtain ⟨rfl, rfl⟩ := List.cons.inj split
          rw [List.append_nil] at hm
          exact absurd same (fresh earlier hm)
        | cons head before =>
          obtain ⟨rfl, rfl⟩ := List.cons.inj split
          rw [List.append_cons] at nodup hm
          exact ⟨before, after, rfl, nodup, hm, same⟩

namespace TypeNode

variable {table : TypeTable} {place : String} {fault : GenerateError}

theorem refused_object_iff {properties : List (String × TypeNode)}
    {required : Option (List String)} :
    (object properties required).Refused table place fault ↔ ∃ earlier name,
      collision? [] ((sortByName properties).map Prod.fst) = some (earlier, name) ∧
        fault = .duplicateDefinition (place ++ "." ++ renderName name ++ " (properties " ++
          showQuoted earlier ++ " and " ++ showQuoted name ++ ")") := by
  constructor
  · intro h
    cases h with
    | @collision _ _ before name after earlier split nodup hm same =>
      have found := (@collision?_eq_some_iff [] _ _ _ List.nodup_nil).mpr
        ⟨before, after, split, nodup, hm, same⟩
      exact ⟨earlier, name, found, rfl⟩
  · rintro ⟨earlier, name, hc, rfl⟩
    obtain ⟨before, after, split, nodup, hm, same⟩ :=
      (@collision?_eq_some_iff [] _ _ _ List.nodup_nil).mp hc
    exact .collision split nodup hm same

/-- A type is refused where it stands for one reason only. -/
theorem Refused.unique {node : TypeNode} {other : GenerateError}
    (h : node.Refused table place fault) (h' : node.Refused table place other) :
    fault = other := by
  cases node with
  | object =>
    obtain ⟨earlier, name, hc, rfl⟩ := refused_object_iff.mp h
    obtain ⟨first, second, hf, rfl⟩ := refused_object_iff.mp h'
    obtain ⟨rfl, rfl⟩ := Prod.mk.inj (Option.some.inj (hc.symm.trans hf))
    rfl
  | array =>
    cases h <;> cases h' <;> rfl
  | enumeration =>
    cases h
    cases h'
    rfl
  | reference =>
    cases h with
    | reference h =>
      cases h' with
      | reference h' => exact Except.error.inj (h.symm.trans h')
  | _ => nomatch h

/-- Properties that render differently in the order of names do so in any order. -/
theorem collision?_sorted_eq_none_iff {properties : List (String × TypeNode)}
    {required : Option (List String)} :
    collision? [] ((sortByName properties).map Prod.fst) = none ↔
      (object properties required).Supported table := by
  have perm := (sortByName_perm properties).map fun property => renderName property.1
  rw [collision?_eq_none_iff, List.map_map]
  exact (and_iff_left (by simp)).trans perm.nodup_iff

theorem refused_iff_not_supported {node : TypeNode} :
    (∃ fault, node.Refused table place fault) ↔ ¬node.Supported table := by
  cases node with
  | array items additionalItems constraints =>
    cases additionalItems with
    | true => exact iff_of_true ⟨_, .additionalItems⟩ (by simp [Supported])
    | false =>
      cases items with
      | none => exact iff_of_true ⟨_, .bareArray⟩ (by simp [Supported])
      | some items => exact iff_of_false (by rintro ⟨_, ⟨⟩⟩) (by simp [Supported])
  | object properties required =>
    simp only [refused_object_iff, ← collision?_sorted_eq_none_iff]
    cases collision? [] ((sortByName properties).map Prod.fst) with
    | none => simp
    | some names => exact iff_of_true ⟨_, names.1, names.2, rfl, rfl⟩ (by simp)
  | enumeration => exact iff_of_true ⟨_, .enumeration⟩ id
  | reference pointer =>
    cases hr : table.resolve pointer with
    | error fault => exact iff_of_true ⟨fault, .reference hr⟩ (by simp [Supported, hr])
    | ok entry =>
      refine iff_of_false ?_ (by simp [Supported, hr])
      rintro ⟨fault, h⟩
      cases h with
      | reference h => cases hr.symm.trans h
  | _ => exact iff_of_false (by rintro ⟨_, ⟨⟩⟩) (by simp [Supported])

/-- Up to the first type that is not supported a path leads to one part only. -/
theorem At.unique {part other node : TypeNode} {path : List DescentStep} (h : part.At path node)
    (h' : other.At path node)
    (above : ∀ (outer : TypeNode) earlier, outer.At earlier node → VisitedBefore earlier path →
      outer.Supported table) : part = other := by
  induction h with
  | here =>
    cases h'
    rfl
  | items _ ih =>
    cases h' with
    | items h' =>
      exact ih h' fun outer earlier ha hb => above outer _ (.items ha) (.cons hb)
  | @property path name node properties required hm _ ih =>
    cases h' with
    | @property _ _ twin _ _ hm' h' =>
      have names : (properties.map fun property => renderName property.1).Nodup :=
        above _ [] .here .nil
      rw [show properties.map (fun property => renderName property.1) =
        (properties.map Prod.fst).map renderName by rw [List.map_map]; rfl] at names
      have same := List.inj_on_of_nodup_map names.of_map hm hm' rfl
      cases same
      exact ih h' fun outer earlier ha hb => above outer _ (.property hm ha) (.cons hb)

/-- A type that is refused stands where a path leads to, and no part that is visited before it is
refused. -/
structure FirstRefused (table : TypeTable) (node : TypeNode) (path : List DescentStep)
    (part : TypeNode) : Prop where
  stands : part.At path node
  refused : ¬part.Supported table
  first : ∀ (other : TypeNode) later, other.At later node → ¬other.Supported table →
    path = later ∨ VisitedBefore path later

theorem FirstRefused.here {node : TypeNode} (refused : ¬node.Supported table) :
    FirstRefused table node [] node where
  stands := .here
  refused := refused
  first := by
    intro other later _ _
    cases later with
    | nil => exact .inl rfl
    | cons step later => exact .inr .nil

theorem FirstRefused.items {items part : TypeNode} {path : List DescentStep}
    {constraints : ArrayConstraints} (h : FirstRefused table items path part) :
    FirstRefused table (array (some items) false constraints) (.element :: path) part where
  stands := .items h.stands
  refused := h.refused
  first := by
    intro other later ha refused
    cases ha with
    | here => exact absurd ⟨rfl, rfl⟩ refused
    | items ha => exact (h.first other _ ha refused).imp (congrArg _) .cons

/-- The members are visited by their names, so that those before the one at hand have been found
well-formed. -/
theorem FirstRefused.property {properties : List (String × TypeNode)}
    {required : Option (List String)} {before after : List (String × TypeNode)} {name : String}
    {node part : TypeNode} {path : List DescentStep} (h : FirstRefused table node path part)
    (supported : (object properties required).Supported table)
    (split : sortByName properties = before ++ (name, node) :: after)
    (earlier : ∀ property ∈ before, property.2.WellFormed table) :
    FirstRefused table (object properties required) (.field name :: path) part where
  stands := .property (mem_sortByName.mp (split ▸ by simp)) h.stands
  refused := h.refused
  first := by
    intro other later ha refused
    cases ha with
    | here => exact absurd supported refused
    | @property rest other' twin _ _ hm ha =>
      have sorted := sortByName_sorted properties
      have perm := (sortByName_perm properties).map fun property => renderName property.1
      have names : ((sortByName properties).map Prod.fst).Nodup := by
        refine .of_map renderName ?_
        rw [List.map_map]
        exact perm.nodup_iff.mpr supported
      rw [split, List.map_append, List.map_cons] at sorted names
      have placed : (other', twin) ∈ before ++ (name, node) :: after :=
        split ▸ mem_sortByName.mpr hm
      rcases List.mem_append.mp placed with front | rest
      · exact absurd (earlier _ front _ (within_iff_exists_at.mpr ⟨_, ha⟩)) refused
      · rcases List.mem_cons.mp rest with same | behind
        · obtain ⟨rfl, rfl⟩ := Prod.mk.inj same
          exact (h.first other _ ha refused).imp (congrArg _) .cons
        · have behind := List.mem_map_of_mem (f := Prod.fst) behind
          have le := (List.pairwise_cons.mp (List.pairwise_append.mp sorted).2.1).1 _ behind
          have ne := (List.pairwise_cons.mp (List.pairwise_append.mp names).2.1).1 _ behind
          exact .inr (.rel (lt_of_le_of_ne le ne))

end TypeNode

namespace Emission

theorem within_error_iff {before after : List Piece} {emission : Emission}
    {finish : Bool → List Statement → Bool × List Statement} {fault : GenerateError} :
    (emission.within before after finish).outcome = .error fault ↔
      emission.outcome = .error fault := by
  unfold within
  split
  next other he => simp [he]
  next he => simp [he]

theorem andThen_error_iff {first second : Emission} {fault : GenerateError} :
    (first.andThen second).outcome = .error fault ↔
      first.outcome = .error fault ∨
        (∃ result, first.outcome = .ok result) ∧ second.outcome = .error fault := by
  unfold andThen
  split
  next other he => simp [he]
  next he =>
    cases second.outcome <;> simp [he, Except.map]

end Emission

namespace EmissionContext

variable {context : EmissionContext} {cursor : Cursor} {optional : Bool} {next : Nat}
  {fault : GenerateError}

/-- If the emission of members fails, that of one of them does, after the others before it went
well. -/
theorem exists_of_memberEmissions {required : List String} {properties : List (String × TypeNode)}
    (h : (context.memberEmissions cursor required next
      (properties.map fun property => (property.1, property.2.sorted))).outcome = .error fault) :
    ∃ before name node after optional next, properties = before ++ (name, node) :: after ∧
      (∀ property ∈ before, property.2.WellFormed context.table) ∧
      (context.emission (cursor.field name) optional next node.sorted).outcome = .error fault := by
  induction properties generalizing next with
  | nil => cases h
  | cons property rest ih =>
    obtain ⟨name, node⟩ := property
    rw [List.map_cons, memberEmissions] at h
    rcases Emission.andThen_error_iff.mp h with failed | ⟨⟨result, passed⟩, failed⟩
    · exact ⟨[], name, node, rest, _, _, rfl, by simp, Emission.within_error_iff.mp failed⟩
    · obtain ⟨ignorable, checks, ho, -⟩ := Emission.within_ok passed
      have wellFormed : node.WellFormed context.table := Emits.wellFormed ⟨ho, rfl⟩
      obtain ⟨before, other, part, after, optional, next, rfl, earlier, he⟩ := ih failed
      exact ⟨(name, node) :: before, other, part, after, optional, next, rfl,
        List.forall_mem_cons.mpr ⟨wellFormed, earlier⟩, he⟩

theorem location_append (context : EmissionContext) (cursor : Cursor) :
    context.location cursor = context.current ++ descentText (cursor.steps ++ []) := by
  rw [location, Cursor.display_eq, List.append_nil]

/-- The first part of a type that is refused is refused for this reason, where it stands. -/
def FirstFault (context : EmissionContext) (cursor : Cursor) (node : TypeNode)
    (fault : GenerateError) : Prop :=
  ∃ path part, node.FirstRefused context.table path part ∧
    part.Refused context.table (context.current ++ descentText (cursor.steps ++ path)) fault

theorem firstFault_here {node : TypeNode}
    (refused : node.Refused context.table (context.location cursor) fault) :
    context.FirstFault cursor node fault := by
  rw [location_append] at refused
  exact ⟨[], node, .here (TypeNode.refused_iff_not_supported.mp ⟨_, refused⟩), refused⟩

theorem FirstFault.items {items : TypeNode} (h : context.FirstFault cursor.element items fault)
    (constraints : ArrayConstraints) :
    context.FirstFault cursor (.array (some items) false constraints) fault := by
  obtain ⟨path, part, first, refused⟩ := h
  refine ⟨.element :: path, part, first.items, ?_⟩
  simpa [Cursor.element] using refused

theorem FirstFault.property {properties before after : List (String × TypeNode)}
    {required : Option (List String)} {name : String} {node : TypeNode}
    (h : context.FirstFault (cursor.field name) node fault)
    (apart : collision? [] ((sortByName properties).map Prod.fst) = none)
    (split : sortByName properties = before ++ (name, node) :: after)
    (earlier : ∀ property ∈ before, property.2.WellFormed context.table) :
    context.FirstFault cursor (.object properties required) fault := by
  obtain ⟨path, part, first, refused⟩ := h
  have supported : (TypeNode.object properties required).Supported context.table :=
    TypeNode.collision?_sorted_eq_none_iff.mp apart
  refine ⟨.field name :: path, part, first.property supported split earlier, ?_⟩
  simpa [Cursor.field] using refused

/-- An emission fails at the first part that is refused, for the reason that it is refused for. -/
theorem firstFault_of_emission {node : TypeNode}
    (h : (context.emission cursor optional next node.sorted).outcome = .error fault) :
    context.FirstFault cursor node fault := by
  induction node generalizing cursor optional next with
  | null | boolean | integer | number | string => cases h
  | bareArray additionalItems constraints =>
    rw [TypeNode.sorted, emission] at h
    · split at h
      next additional =>
        cases h
        cases additional
        exact firstFault_here .additionalItems
      next single =>
        cases h
        rw [Bool.not_eq_true] at single
        cases single
        exact firstFault_here .bareArray
    · rintro _ _ _ ⟨⟩
    · rintro _ _ ⟨⟩
  | array items additionalItems constraints ih =>
    rw [TypeNode.sorted, emission] at h
    split at h
    next additional =>
      cases h
      cases additional
      exact firstFault_here .additionalItems
    next single =>
      rw [Bool.not_eq_true] at single
      cases single
      exact (ih (Emission.within_error_iff.mp h)).items constraints
  | object properties required ih =>
    rw [emission_sorted_object] at h
    dsimp only at h
    split at h
    next earlier name hc =>
      cases h
      exact firstFault_here (TypeNode.refused_object_iff.mpr ⟨earlier, name, hc, rfl⟩)
    next apart =>
      obtain ⟨before, name, node, after, _, _, split, earlier, he⟩ :=
        exists_of_memberEmissions (Emission.within_error_iff.mp h)
      have member : (name, node) ∈ properties := mem_sortByName.mp (split ▸ by simp)
      exact (ih name node member he).property apart split earlier
  | enumeration =>
    cases h
    exact firstFault_here .enumeration
  | reference pointer =>
    rw [TypeNode.sorted, emission] at h
    · split at h
      next fault' hr =>
        cases h
        exact firstFault_here (.reference hr)
      next entry hr =>
        dsimp only at h
        split at h <;> cases h
    · rintro _ _ _ ⟨⟩
    · rintro _ _ ⟨⟩

/-- A type that has parts which cannot be generated is refused for the first of them, where it
stands. -/
theorem emit_error_iff (context : EmissionContext) (next : Nat) (node : TypeNode) :
    ((∃ fault, (context.emit next node).outcome = .error fault) ↔
      ∃ part : TypeNode, part.Within node ∧ ¬part.Supported context.table) ∧
    ∀ fault, (context.emit next node).outcome = .error fault ↔
      ∃ path part, node.FirstRefused context.table path part ∧
        part.Refused context.table (context.current ++ descentText path) fault := by
  have fails : (∃ fault, (context.emit next node).outcome = .error fault) ↔
      ∃ part : TypeNode, part.Within node ∧ ¬part.Supported context.table := by
    constructor
    · rintro ⟨fault, h⟩
      obtain ⟨path, part, first, -⟩ := firstFault_of_emission h
      exact ⟨part, TypeNode.within_iff_exists_at.mpr ⟨path, first.stands⟩, first.refused⟩
    · rintro ⟨part, inside, unsupported⟩
      cases ho : (context.emit next node).outcome with
      | error fault => exact ⟨fault, rfl⟩
      | ok result => exact absurd (Emits.wellFormed ⟨ho, rfl⟩ part inside) unsupported
  refine ⟨fails, fun fault => ⟨fun h => ?_, ?_⟩⟩
  · obtain ⟨path, part, first, refused⟩ := firstFault_of_emission h
    exact ⟨path, part, first, refused⟩
  · rintro ⟨path, part, first, refused⟩
    obtain ⟨other, ho⟩ :=
      fails.mpr ⟨part, TypeNode.within_iff_exists_at.mpr ⟨path, first.stands⟩, first.refused⟩
    obtain ⟨path', part', first', refused'⟩ := firstFault_of_emission ho
    rw [show FileParts.root.steps ++ path' = path' from rfl] at refused'
    -- Both come first, so that neither comes before the other.
    have same : path = path' := by
      rcases first.first part' path' first'.stands first'.refused with same | before
      · exact same
      · rcases first'.first part path first.stands first.refused with same | after
        · exact same.symm
        · exact absurd after before.asymm
    cases same
    have part_eq : part = part' := first.stands.unique first'.stands fun outer earlier ha hb => by
      by_contra unsupported
      rcases first.first outer earlier ha unsupported with same | after
      · exact hb.asymm (same ▸ hb)
      · exact hb.asymm after
    cases part_eq
    rw [ho, refused.unique refused']

end EmissionContext

end CheckedTypes
