import CheckedTypes.ValidatedTypes
import CheckedTypes.Proofs.NodePart
import Mathlib.Logic.Relation
import Mathlib.Data.List.Nodup
import Mathlib.Data.List.Perm.Subperm

namespace CheckedTypes

namespace TypeNode

theorem isAnyConstrained_false {table : TypeTable} {explicit : Bool} {validated : List String}
    {properties : List (String × TypeNode)} :
    isAnyConstrained table explicit validated properties = .ok false ↔
      ∀ name node, (name, node) ∈ properties →
        node.isConstrained table explicit validated = .ok false := by
  induction properties with
  | nil => simp [isAnyConstrained]
  | cons property rest ih =>
    obtain ⟨name, node⟩ := property
    rw [isAnyConstrained]
    split
    next hn =>
      rw [ih]
      constructor
      · intro h other part hm
        rcases List.mem_cons.mp hm with he | hm
        · obtain ⟨-, rfl⟩ := Prod.mk.inj he
          exact hn
        · exact h other part hm
      · exact fun h other part hm => h other part (List.mem_cons_of_mem _ hm)
    next hn =>
      constructor
      · exact fun h => absurd h hn
      · exact fun h => h name node (by simp)

theorem isAnyConstrained_true {table : TypeTable} {explicit : Bool} {validated : List String}
    {properties : List (String × TypeNode)}
    (h : isAnyConstrained table explicit validated properties = .ok true) :
    ∃ name node, (name, node) ∈ properties ∧
      node.isConstrained table explicit validated = .ok true := by
  induction properties with
  | nil => simp [isAnyConstrained] at h
  | cons property rest ih =>
    obtain ⟨name, node⟩ := property
    rw [isAnyConstrained] at h
    split at h
    next =>
      obtain ⟨other, part, hm, hp⟩ := ih h
      exact ⟨other, part, List.mem_cons_of_mem _ hm, hp⟩
    next => exact ⟨name, node, by simp, h⟩

theorem isAnyConstrained_total {table : TypeTable} {explicit : Bool} {validated : List String}
    {properties : List (String × TypeNode)}
    (h : ∀ name node, (name, node) ∈ properties →
      ∃ constrained, node.isConstrained table explicit validated = .ok constrained) :
    ∃ constrained, isAnyConstrained table explicit validated properties = .ok constrained := by
  induction properties with
  | nil => exact ⟨false, rfl⟩
  | cons property rest ih =>
    obtain ⟨name, node⟩ := property
    obtain ⟨constrained, hc⟩ := h name node (by simp)
    rw [isAnyConstrained]
    cases constrained with
    | false =>
      simp only [hc]
      exact ih fun other part hm => h other part (List.mem_cons_of_mem _ hm)
    | true => exact ⟨true, by simp [hc]⟩

/-- The order of the properties only decides which failure is met first. -/
theorem isAnyConstrained_perm {table : TypeTable} {explicit : Bool} {validated : List String}
    {properties others : List (String × TypeNode)} (hp : properties.Perm others)
    (total : ∀ name node, (name, node) ∈ properties →
      ∃ constrained, node.isConstrained table explicit validated = .ok constrained) :
    isAnyConstrained table explicit validated properties =
      isAnyConstrained table explicit validated others := by
  obtain ⟨a, ha⟩ := isAnyConstrained_total total
  obtain ⟨b, hb⟩ := isAnyConstrained_total fun name node hm => total name node (hp.symm.subset hm)
  have same : isAnyConstrained table explicit validated properties = .ok false ↔
      isAnyConstrained table explicit validated others = .ok false := by
    rw [isAnyConstrained_false, isAnyConstrained_false]
    simp only [hp.mem_iff]
  rw [ha, hb] at same ⊢
  cases a <;> cases b <;> simp_all

/-- A part of the type refers to a type that has a validator already. -/
def RefersInto (table : TypeTable) (validated : List String) (node : TypeNode) : Prop :=
  ∃ pointer entry, (reference pointer).Within node ∧ table.resolve pointer = .ok entry ∧
    entry.ident ∈ validated

theorem isConstrained_true {table : TypeTable} {explicit : Bool} {validated : List String}
    {node : TypeNode} (h : node.isConstrained table explicit validated = .ok true) :
    node.HasConstraintWithin ∨ explicit ∧ node.RefersInto table validated := by
  induction node with
  | null | boolean | enumeration => simp [isConstrained] at h
  | integer constraints =>
    simp only [isConstrained, Except.ok.injEq, Bool.not_eq_true'] at h
    exact .inl (integer_hasConstraint.mpr h).within
  | number constraints =>
    simp only [isConstrained, Except.ok.injEq, Bool.not_eq_true'] at h
    exact .inl (number_hasConstraint.mpr h).within
  | string constraints =>
    simp only [isConstrained, Except.ok.injEq, Bool.not_eq_true'] at h
    exact .inl (string_hasConstraint.mpr h).within
  | bareArray additionalItems constraints =>
    rw [isConstrained] at h
    split at h
    next => simp at h
    next he => exact .inl (array_hasConstraint.mpr (by simpa using he)).within
  | array items additionalItems constraints ih =>
    rw [isConstrained] at h
    split at h
    next =>
      rcases ih h with hc | ⟨hx, pointer, entry, hw, hr⟩
      · exact .inl hc.items
      · exact .inr ⟨hx, pointer, entry, .items hw, hr⟩
    next he => exact .inl (array_hasConstraint.mpr (by simpa using he)).within
  | object properties required ih =>
    rw [isConstrained] at h
    split at h
    next =>
      obtain ⟨name, node, hm, hn⟩ := isAnyConstrained_true h
      rcases ih name node hm hn with hc | ⟨hx, pointer, entry, hw, hr⟩
      · exact .inl (hc.property hm)
      · exact .inr ⟨hx, pointer, entry, .property hm hw, hr⟩
    next he => exact .inl (object_hasConstraint.mpr (by simpa using he)).within
  | reference pointer =>
    rw [isConstrained] at h
    split at h
    next hx =>
      cases hr : table.resolve pointer with
      | error fault => simp [hr, Except.map] at h
      | ok entry =>
        refine .inr ⟨hx, pointer, entry, .here, hr, ?_⟩
        simpa [hr, Except.map] using h
    next => simp at h

/-- A type that is found unconstrained has been looked through completely: no part restricts its
values and every reference leads to a type without a validator. -/
theorem isConstrained_false {table : TypeTable} {explicit : Bool} {validated : List String}
    {node : TypeNode} (h : node.isConstrained table explicit validated = .ok false)
    {part : TypeNode} (hw : part.Within node) :
    part.isConstrained table explicit validated = .ok false := by
  induction hw with
  | here => exact h
  | items _ ih =>
    rw [isConstrained] at h
    split at h
    next => exact ih h
    next => simp at h
  | property hm _ ih =>
    rw [isConstrained] at h
    split at h
    next => exact ih (isAnyConstrained_false.mp h _ _ hm)
    next => simp at h

theorem not_hasConstraint_of_isConstrained {table : TypeTable} {explicit : Bool}
    {validated : List String} {node : TypeNode}
    (h : node.isConstrained table explicit validated = .ok false) : ¬node.HasConstraint := by
  cases node with
  | null | boolean | enumeration | reference => simp [HasConstraint]
  | integer constraints =>
    rw [integer_hasConstraint]
    simpa [isConstrained] using h
  | number constraints =>
    rw [number_hasConstraint]
    simpa [isConstrained] using h
  | string constraints =>
    rw [string_hasConstraint]
    simpa [isConstrained] using h
  | array items additionalItems constraints =>
    rw [array_hasConstraint]
    cases items <;> rw [isConstrained] at h <;> split at h <;> simp_all
  | object properties required =>
    rw [object_hasConstraint]
    rw [isConstrained] at h
    split at h
    next he => simpa using he
    next => simp at h

theorem resolve_of_isConstrained_false {table : TypeTable} {validated : List String}
    {pointer : String} (h : (reference pointer).isConstrained table true validated = .ok false) :
    ∃ entry, table.resolve pointer = .ok entry ∧ entry.ident ∉ validated := by
  cases hr : table.resolve pointer with
  | error fault => simp [isConstrained, hr, Except.map] at h
  | ok entry => exact ⟨entry, rfl, by simpa [isConstrained, hr, Except.map] using h⟩

/-- Only a reference that leads nowhere can fail, and only where references count. -/
theorem isConstrained_total {table : TypeTable} {explicit : Bool} {node : TypeNode}
    (lead : explicit = true → ∀ pointer, (reference pointer).Within node →
      ∃ entry, table.resolve pointer = .ok entry) (validated : List String) :
    ∃ constrained, node.isConstrained table explicit validated = .ok constrained := by
  induction node with
  | null | boolean | enumeration | integer | number | string => simp [isConstrained]
  | bareArray => rw [isConstrained]; split <;> simp
  | array items additionalItems constraints ih =>
    rw [isConstrained]
    split
    next => exact ih fun counts pointer hw => lead counts pointer (.items hw)
    next => exact ⟨true, rfl⟩
  | object properties required ih =>
    rw [isConstrained]
    split
    next =>
      exact isAnyConstrained_total fun name node hm =>
        ih name node hm fun counts pointer hw => lead counts pointer (.property hm hw)
    next => exact ⟨true, rfl⟩
  | reference pointer =>
    rw [isConstrained]
    split
    next counts =>
      obtain ⟨entry, hr⟩ := lead counts pointer .here
      exact ⟨_, by rw [hr]; rfl⟩
    next => exact ⟨false, rfl⟩

end TypeNode

end CheckedTypes
