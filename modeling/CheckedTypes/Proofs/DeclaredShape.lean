import CheckedTypes.Proofs.EmissionFrame
import CheckedTypes.Proofs.FirstFault

namespace CheckedTypes

namespace TypeNode

mutual
/-- A type without its constraints. What stays are the kinds of the parts, the names of the
properties, which of them are required, and the references. -/
def shape : TypeNode → TypeNode
  | .integer _ => .integer { minimum := none, maximum := none, multipleOf := none }
  | .number _ => .number { minimum := none, maximum := none, multipleOf := none }
  | .string _ => .string {}
  | .array none additionalItems _ => .array none additionalItems {}
  | .array (some items) additionalItems _ => .array (some items.shape) additionalItems {}
  | .object properties required => .object (propertyShapes properties) required
  | node => node
def propertyShapes : List (String × TypeNode) → List (String × TypeNode)
  | [] => []
  | (name, node) :: rest => (name, node.shape) :: propertyShapes rest
end

theorem propertyShapes_eq_map (properties : List (String × TypeNode)) :
    propertyShapes properties = properties.map fun property => (property.1, property.2.shape) := by
  induction properties with
  | nil => rfl
  | cons property rest ih =>
    obtain ⟨name, node⟩ := property
    rw [propertyShapes, ih]
    rfl

theorem map_fst_propertyShapes (properties : List (String × TypeNode)) :
    (propertyShapes properties).map Prod.fst = properties.map Prod.fst := by
  rw [propertyShapes_eq_map, List.map_map]
  rfl

/-- Properties are put in the same order with their constraints and without. -/
theorem shape_sorted (node : TypeNode) : node.sorted.shape = node.shape.sorted := by
  induction node with
  | null | boolean | integer | number | string | bareArray | enumeration | reference => rfl
  | array items additionalItems constraints ih =>
    rw [sorted, shape, shape, sorted, ih]
  | object properties required ih =>
    have parts : (properties.map fun property => (property.1, property.2.sorted.shape)) =
        properties.map fun property => (property.1, property.2.shape.sorted) := by
      refine List.map_congr_left fun property hp => ?_
      rw [ih property.1 property.2 hp]
    have order : propertyShapes (sortByName (properties.map fun property =>
        (property.1, property.2.sorted))) =
          sortByName ((propertyShapes properties).map fun property =>
            (property.1, property.2.sorted)) := by
      rw [propertyShapes_eq_map, propertyShapes_eq_map, ← sortByName_map, List.map_map,
        List.map_map]
      exact congrArg sortByName parts
    have asked (others : List (String × TypeNode)) :
        requiredNames (propertyShapes others) required = requiredNames others required := by
      rw [requiredNames, map_fst_propertyShapes, requiredNames]
    rw [shape, sorted_object, sorted_object, shape]
    dsimp only
    rw [← order, asked]

end TypeNode

namespace Emission

/-- Two emissions write the same declaration, and either both fail, for the same reason, or none. -/
structure DeclaresAlike (emission other : Emission) : Prop where
  declaration_eq : emission.declaration = other.declaration
  error_iff : ∀ fault, emission.outcome = .error fault ↔ other.outcome = .error fault

namespace DeclaresAlike

variable {emission other first twin : Emission}

theorem refl (emission : Emission) : emission.DeclaresAlike emission :=
  ⟨rfl, fun _ => Iff.rfl⟩

theorem symm (h : emission.DeclaresAlike other) : other.DeclaresAlike emission :=
  ⟨h.declaration_eq.symm, fun fault => (h.error_iff fault).symm⟩

theorem trans {third : Emission} (h : emission.DeclaresAlike other)
    (h' : other.DeclaresAlike third) : emission.DeclaresAlike third :=
  ⟨h.declaration_eq.trans h'.declaration_eq,
    fun fault => (h.error_iff fault).trans (h'.error_iff fault)⟩

theorem of_ok {result answer : Bool × List Statement}
    (declared : emission.declaration = other.declaration) (he : emission.outcome = .ok result)
    (ho : other.outcome = .ok answer) : emission.DeclaresAlike other := by
  refine ⟨declared, fun fault => ?_⟩
  rw [he, ho]
  exact ⟨nofun, nofun⟩

/-- Both emissions succeed, or both fail for one reason. -/
theorem outcomes (h : emission.DeclaresAlike other) :
    (∃ result answer, emission.outcome = .ok result ∧ other.outcome = .ok answer) ∨
      ∃ fault, emission.outcome = .error fault ∧ other.outcome = .error fault := by
  cases he : emission.outcome with
  | error fault =>
    have failed : other.outcome = .error fault := (h.error_iff fault).mp he
    exact .inr ⟨fault, rfl, failed⟩
  | ok result =>
    cases ho : other.outcome with
    | error fault =>
      have failed : emission.outcome = .error fault := (h.error_iff fault).mpr ho
      cases he.symm.trans failed
    | ok answer => exact .inl ⟨result, answer, rfl, rfl⟩

theorem ok_iff (h : emission.DeclaresAlike other) :
    (∃ result, emission.outcome = .ok result) ↔ ∃ result, other.outcome = .ok result := by
  rcases h.outcomes with ⟨result, answer, he, ho⟩ | ⟨fault, he, ho⟩
  · exact iff_of_true ⟨result, he⟩ ⟨answer, ho⟩
  · simp [he, ho]

theorem within (h : emission.DeclaresAlike other) (before after : List Piece)
    (finish close : Bool → List Statement → Bool × List Statement) :
    (emission.within before after finish).DeclaresAlike (other.within before after close) := by
  constructor
  · rcases h.outcomes with ⟨result, answer, he, ho⟩ | ⟨fault, he, ho⟩
    · rw [within_declaration he, within_declaration ho, h.declaration_eq]
    · simp only [Emission.within, he, ho, h.declaration_eq]
  · intro fault
    rw [within_error_iff, within_error_iff]
    exact h.error_iff fault

theorem andThen {second rest : Emission} (h : first.DeclaresAlike twin)
    (h' : second.DeclaresAlike rest) :
    (first.andThen second).DeclaresAlike (twin.andThen rest) := by
  constructor
  · rcases h.outcomes with ⟨result, answer, he, ho⟩ | ⟨fault, he, ho⟩
    · rw [andThen_declaration he, andThen_declaration ho, h.declaration_eq, h'.declaration_eq]
    · rw [andThen_of_error he, andThen_of_error ho, h.declaration_eq]
  · intro fault
    rw [andThen_error_iff, andThen_error_iff, h.error_iff, h.ok_iff, h'.error_iff]

end DeclaresAlike

end Emission

/-- What is written of them to drafts of one declaration is the same declaration. -/
theorem Emission.DeclaresAlike.emitted {emission other : Emission}
    (h : emission.DeclaresAlike other) {drafts others : Drafts}
    (declared : drafts.declaration = others.declaration) (target : Target) :
    ((∃ ignorable, (drafts.emitted target emission).1 = .ok ignorable) ↔
        ∃ ignorable, (others.emitted target other).1 = .ok ignorable) ∧
      (∀ fault, (drafts.emitted target emission).1 = .error fault ↔
        (others.emitted target other).1 = .error fault) ∧
      (drafts.emitted target emission).2.declaration =
        (others.emitted target other).2.declaration := by
  have written : drafts.declaration.putAll emission.declaration =
      others.declaration.putAll other.declaration := by
    rw [declared, h.declaration_eq]
  rcases h.outcomes with ⟨⟨ignorable, checks⟩, ⟨needless, more⟩, he, ho⟩ | ⟨fault, he, ho⟩
  · rw [Drafts.emitted_of_ok he, Drafts.emitted_of_ok ho]
    exact ⟨iff_of_true ⟨ignorable, rfl⟩ ⟨needless, rfl⟩, fun _ => ⟨nofun, nofun⟩, written⟩
  · rw [Drafts.emitted_of_error he, Drafts.emitted_of_error ho]
    exact ⟨iff_of_false nofun nofun, fun _ => Iff.rfl, written⟩

namespace EmissionContext

variable {context : EmissionContext} {validated : List String}

/-- Members declare alike if their types do, wherever the numbers of patterns have come to. -/
theorem memberEmissions_shape {properties : List (String × TypeNode)}
    (each : ∀ name node, (name, node) ∈ properties → ∀ cursor optional next later,
      (context.emission cursor optional next node).DeclaresAlike
        (EmissionContext.emission { context with validated } cursor optional later node.shape))
    (cursor : Cursor) (required : List String) (next later : Nat) :
    (context.memberEmissions cursor required next properties).DeclaresAlike
      (EmissionContext.memberEmissions { context with validated } cursor required later
        (TypeNode.propertyShapes properties)) := by
  induction properties generalizing next later with
  | nil => exact .refl _
  | cons property rest ih =>
    obtain ⟨name, node⟩ := property
    have here := each name node List.mem_cons_self (cursor.field name) (!required.contains name)
      next later
    have others := ih fun other part hm => each other part (List.mem_cons_of_mem _ hm)
    rw [TypeNode.propertyShapes, memberEmissions, memberEmissions]
    exact (here.within _ _ _ _).andThen (others _ _)

/-- What is declared for a type is declared for its shape, whatever types are validated. -/
theorem emission_shape (context : EmissionContext) (validated : List String) (node : TypeNode)
    (cursor : Cursor) (optional : Bool) (next later : Nat) :
    (context.emission cursor optional next node).DeclaresAlike
      (EmissionContext.emission { context with validated } cursor optional later
        node.shape) := by
  induction node generalizing cursor optional next later with
  | null | boolean => exact .refl _
  | integer | number | string => exact .of_ok rfl rfl rfl
  | bareArray additionalItems =>
    rw [TypeNode.shape, emission, emission]
    cases additionalItems <;> exact .refl _
  | array items additionalItems constraints ih =>
    rw [TypeNode.shape, emission, emission]
    split
    next => exact .refl _
    next => exact (ih cursor.element false next later).within _ _ _ _
  | object properties required ih =>
    rw [TypeNode.shape, emission, emission, TypeNode.map_fst_propertyShapes]
    cases collision? [] (properties.map Prod.fst) with
    | some names => exact .refl _
    | none => exact (memberEmissions_shape ih cursor (required.getD []) next later).within _ _ _ _
  | enumeration => exact .refl _
  | reference pointer =>
    have kept : (TypeNode.reference pointer).shape = .reference pointer := rfl
    rw [kept, emission, emission]
    dsimp only
    cases context.table.resolve pointer with
    | error fault => exact .refl _
    | ok entry =>
      dsimp only
      split <;> split <;> exact .of_ok rfl rfl rfl

/-- The constraints of a type leave no trace in its declaration. Types that differ in nothing else
are generated or refused together, for the same reason, and the same text is written for them,
whatever checks and patterns have been collected and whatever types are validated. -/
theorem declaration_of_shape_eq (context : EmissionContext) (validated : List String)
    (cursor : Cursor) (optional : Bool) {node other : TypeNode} (same : node.shape = other.shape)
    {drafts others : Drafts} (declared : drafts.declaration = others.declaration) :
    let first := context.writeType cursor optional node.sorted drafts
    let second := EmissionContext.writeType { context with validated } cursor optional other.sorted
      others
    ((∃ ignorable, first.1 = .ok ignorable) ↔ ∃ ignorable, second.1 = .ok ignorable) ∧
      (∀ fault, first.1 = .error fault ↔ second.1 = .error fault) ∧
      first.2.declaration = second.2.declaration ∧
      (context.emission cursor optional drafts.next node.sorted).DeclaresAlike
        (EmissionContext.emission { context with validated } cursor optional others.next
          other.sorted) := by
  have shapes : node.sorted.shape = other.sorted.shape := by
    rw [TypeNode.shape_sorted, TypeNode.shape_sorted, same]
  have first := context.emission_shape validated node.sorted cursor optional drafts.next 0
  have second := EmissionContext.emission_shape { context with validated } validated other.sorted
    cursor optional others.next 0
  rw [shapes] at first
  have alike := first.trans second.symm
  dsimp only
  rw [writeType_eq, writeType_eq]
  obtain ⟨generated, refused, text⟩ := alike.emitted declared context.target
  exact ⟨generated, refused, text, alike⟩

/-- A parcel that is checked in many ways. -/
def parcelNode : TypeNode :=
  .object [("labels", .array (some (.string { pattern := some "^[a-z]+$" })) false
      { maxItems := some 3, uniqueItems := true }),
    ("code", .string { minLength := some 2 })] none

/-- A parcel of which anything is accepted. -/
def looseParcelNode : TypeNode :=
  .object [("labels", .array (some (.string {})) false {}), ("code", .string {})] none

/-- The same drafts after three patterns and a check. -/
def laterDrafts : Drafts :=
  { shelfDrafts with
    validation := CodeWriter.line { tab := "\t", depth := 1 } "checked()"
    next := 3 }

/-- Only the first parcel needs a validator. -/
theorem declaration_of_shape_eq_parcel : ∃ first second : Drafts,
    shelfContext.writeType FileParts.root false parcelNode.sorted shelfDrafts =
      (.ok false, first) ∧
    EmissionContext.writeType { shelfContext with validated := ["Label"] } FileParts.root false
      looseParcelNode.sorted laterDrafts = (.ok true, second) ∧
    first.declaration = second.declaration := by
  have same : parcelNode.shape = looseParcelNode.shape := rfl
  have declared : shelfDrafts.declaration = laterDrafts.declaration := rfl
  obtain ⟨-, -, text, -⟩ := declaration_of_shape_eq shelfContext ["Label"] FileParts.root false
    same declared
  have first : ∃ checks, (shelfContext.emission FileParts.root false shelfDrafts.next
      parcelNode.sorted).outcome = .ok (false, checks) := ⟨_, by cbv⟩
  have second : ∃ checks, (EmissionContext.emission { shelfContext with validated := ["Label"] }
      FileParts.root false laterDrafts.next looseParcelNode.sorted).outcome =
        .ok (true, checks) := ⟨_, by cbv⟩
  obtain ⟨checks, he⟩ := first
  obtain ⟨others, ho⟩ := second
  have written := (writeType_eq shelfContext _ _ _ _).trans (Drafts.emitted_of_ok he)
  have rewritten := (writeType_eq _ _ _ _ _).trans (Drafts.emitted_of_ok ho)
  rw [written, rewritten] at text
  exact ⟨_, _, written, rewritten, text⟩

end EmissionContext

end CheckedTypes
