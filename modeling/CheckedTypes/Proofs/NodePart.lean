import CheckedTypes.TypeNode

namespace CheckedTypes

theorem mem_sortByName {α : Type} {named : List (String × α)} {entry : String × α} :
    entry ∈ sortByName named ↔ entry ∈ named := by
  simp [sortByName]

theorem sortByName_perm {α : Type} (named : List (String × α)) : (sortByName named).Perm named :=
  List.mergeSort_perm _ _

namespace TypeNode

theorem requiredNames_perm {properties others : List (String × TypeNode)}
    {required : Option (List String)} (h : properties.Perm others) :
    (requiredNames properties required).Perm (requiredNames others required) :=
  (h.map Prod.fst).filter _

/-- Induction over types: what holds of the items of an array and of the properties of an object
holds of the whole. -/
@[induction_eliminator]
theorem induct {motive : TypeNode → Prop} (null : motive .null) (boolean : motive .boolean)
    (integer : ∀ constraints, motive (.integer constraints))
    (number : ∀ constraints, motive (.number constraints))
    (string : ∀ constraints, motive (.string constraints))
    (bareArray : ∀ additionalItems constraints, motive (.array none additionalItems constraints))
    (array : ∀ items additionalItems constraints, motive items →
      motive (.array (some items) additionalItems constraints))
    (object : ∀ properties required, (∀ name node, (name, node) ∈ properties → motive node) →
      motive (.object properties required))
    (enumeration : ∀ values, motive (.enumeration values))
    (reference : ∀ pointer, motive (.reference pointer)) : ∀ node, motive node
  | .null => null
  | .boolean => boolean
  | .integer constraints => integer constraints
  | .number constraints => number constraints
  | .string constraints => string constraints
  | .array none additionalItems constraints => bareArray additionalItems constraints
  | .array (some items) additionalItems constraints =>
    array items additionalItems constraints
      (induct null boolean integer number string bareArray array object enumeration reference items)
  | .object properties required =>
    object properties required fun _ node _ =>
      induct null boolean integer number string bareArray array object enumeration reference node
  | .enumeration values => enumeration values
  | .reference pointer => reference pointer
termination_by node => sizeOf node
decreasing_by
  · simp; omega
  · next member =>
    have := List.sizeOf_lt_of_mem member
    simp at this ⊢
    omega

/-- A type whose values have parts. -/
def isComposite : TypeNode → Bool
  | array .. => true
  | object .. => true
  | _ => false

/-- A type stands in another at some depth, not behind a reference. -/
inductive Within (part : TypeNode) : TypeNode → Prop
  | here : Within part part
  | items {items additionalItems constraints} : Within part items →
      Within part (.array (some items) additionalItems constraints)
  | property {name node properties required} : (name, node) ∈ properties → Within part node →
      Within part (.object properties required)

/-- A type restricts its values beyond their kind, without regard to its parts. -/
def HasConstraint : TypeNode → Prop
  | .integer constraints | .number constraints =>
    constraints.minimum.isSome ∨ constraints.maximum.isSome ∨ constraints.multipleOf.isSome
  | .string constraints =>
    constraints.minLength.isSome ∨ constraints.maxLength.isSome ∨ constraints.pattern.isSome
  | .array _ _ constraints =>
    constraints.minItems.isSome ∨ constraints.maxItems.isSome ∨ constraints.uniqueItems
  | .object properties required => ∃ name ∈ required.getD [], name ∈ properties.map Prod.fst
  | _ => False

/-- Some part restricts its values. -/
def HasConstraintWithin (node : TypeNode) : Prop :=
  ∃ part : TypeNode, part.Within node ∧ part.HasConstraint

theorem HasConstraint.within {node : TypeNode} (h : node.HasConstraint) :
    node.HasConstraintWithin :=
  ⟨node, .here, h⟩

theorem HasConstraintWithin.items {items : TypeNode} {additionalItems : Bool}
    {constraints : ArrayConstraints} (h : items.HasConstraintWithin) :
    (TypeNode.array (some items) additionalItems constraints).HasConstraintWithin := by
  obtain ⟨part, hp, hc⟩ := h
  exact ⟨part, .items hp, hc⟩

theorem HasConstraintWithin.property {name : String} {node : TypeNode}
    {properties : List (String × TypeNode)} {required : Option (List String)}
    (hm : (name, node) ∈ properties) (h : node.HasConstraintWithin) :
    (TypeNode.object properties required).HasConstraintWithin := by
  obtain ⟨part, hp, hc⟩ := h
  exact ⟨part, .property hm hp, hc⟩

theorem integer_hasConstraint {constraints : NumericConstraints} :
    (TypeNode.integer constraints).HasConstraint ↔ constraints.isEmpty = false := by
  simp only [HasConstraint, NumericConstraints.isEmpty, Option.isSome_iff_ne_none]
  cases constraints.minimum <;> cases constraints.maximum <;> cases constraints.multipleOf <;> simp

theorem number_hasConstraint {constraints : NumericConstraints} :
    (TypeNode.number constraints).HasConstraint ↔ constraints.isEmpty = false :=
  integer_hasConstraint

theorem string_hasConstraint {constraints : StringConstraints} :
    (TypeNode.string constraints).HasConstraint ↔ constraints.isEmpty = false := by
  simp only [HasConstraint, StringConstraints.isEmpty, StringConstraints.hasLength]
  cases constraints.minLength <;> cases constraints.maxLength <;> cases constraints.pattern <;> simp

theorem array_hasConstraint {items : Option TypeNode} {additionalItems : Bool}
    {constraints : ArrayConstraints} :
    (TypeNode.array items additionalItems constraints).HasConstraint ↔
      constraints.isEmpty = false := by
  simp only [HasConstraint, ArrayConstraints.isEmpty]
  cases constraints.minItems <;> cases constraints.maxItems <;>
    cases constraints.uniqueItems <;> simp

theorem object_hasConstraint {properties : List (String × TypeNode)}
    {required : Option (List String)} :
    (TypeNode.object properties required).HasConstraint ↔
      (requiredNames properties required).isEmpty = false := by
  simp only [HasConstraint, requiredNames, List.isEmpty_eq_false_iff_exists_mem, List.mem_filter,
    List.contains_eq_mem, decide_eq_true_eq]
  exact exists_congr fun name => and_comm

end TypeNode

end CheckedTypes
