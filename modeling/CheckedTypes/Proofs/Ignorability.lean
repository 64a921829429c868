import CheckedTypes.Proofs.ConstraintReach
import CheckedTypes.Proofs.EmittedType

namespace CheckedTypes

namespace EmissionContext

variable {context : EmissionContext} {cursor : Cursor} {optional : Bool} {next : Nat}
  {ignorable : Bool} {checks : List Statement} {patterns : List String}

/-- Whether a type is found constrained from the types that have a validator. -/
def constrained (context : EmissionContext) (node : TypeNode) : Except GenerateError Bool :=
  node.isConstrained context.table context.target.dispatches context.validated

theorem EmitsMembers.emits_of_mem {required : List String} {properties : List (String × TypeNode)}
    (h : context.EmitsMembers cursor required next properties ignorable checks patterns)
    {name : String} {node : TypeNode} (hm : (name, node) ∈ properties) :
    ∃ start a others used, (ignorable = true → a = true) ∧
      context.Emits (cursor.field name) (!required.contains name) start node a others used := by
  induction h with
  | nil => simp at hm
  | cons first _ ih =>
    rcases List.mem_cons.mp hm with he | hm
    · obtain ⟨rfl, rfl⟩ := Prod.mk.inj he
      exact ⟨_, _, _, _, fun h => (Bool.and_eq_true_iff.mp h).1, first⟩
    · obtain ⟨start, a, others, used, ha, he⟩ := ih hm
      exact ⟨start, a, others, used, fun h => ha (Bool.and_eq_true_iff.mp h).2, he⟩

theorem EmitsMembers.isAnyConstrained {required : List String}
    {properties : List (String × TypeNode)}
    (h : context.EmitsMembers cursor required next properties ignorable checks patterns)
    (each : ∀ name node, (name, node) ∈ properties → ∀ cursor optional next a others used,
      context.Emits cursor optional next node a others used → context.constrained node = .ok !a) :
    TypeNode.isAnyConstrained context.table context.target.dispatches context.validated
      properties = .ok !ignorable := by
  induction h with
  | nil => rfl
  | @cons _ name node rest a b _ _ _ _ first _ ih =>
    have hf := each name node (by simp) _ _ _ _ _ _ first
    have hr := ih fun other part hm => each other part (List.mem_cons_of_mem _ hm)
    rw [TypeNode.isAnyConstrained, ← constrained, hf]
    cases a with
    | true => simpa using hr
    | false => rfl

/-- The emitter and the search for the types with a validator agree on what needs no checks. -/
theorem Emits.constrained
    (h : context.Emits cursor optional next node ignorable checks patterns) :
    context.constrained node = .ok !ignorable := by
  induction node generalizing cursor optional next ignorable checks patterns with
  | null => simp [h.null.1, constrained, TypeNode.isConstrained]
  | boolean => simp [h.boolean.1, EmissionContext.constrained, TypeNode.isConstrained]
  | integer => simp [h.integer.1, EmissionContext.constrained, TypeNode.isConstrained]
  | number => simp [h.number.1, EmissionContext.constrained, TypeNode.isConstrained]
  | string => simp [h.string.1, EmissionContext.constrained, TypeNode.isConstrained]
  | bareArray => exact absurd h not_emits_bareArray
  | array items additionalItems constraints ih =>
    obtain ⟨-, a, elements, hi, rfl, -⟩ := h.array
    have := ih hi
    rw [EmissionContext.constrained, TypeNode.isConstrained]
    cases constraints.isEmpty <;> simp_all [EmissionContext.constrained]
  | object properties required ih =>
    obtain ⟨-, a, members, hm, rfl, -⟩ := h.object
    have perm := sortByName_perm properties
    have names : (TypeNode.requiredNames (sortByName properties) required).isEmpty =
        (TypeNode.requiredNames properties required).isEmpty :=
      (TypeNode.requiredNames_perm perm).isEmpty_eq
    have any := hm.isAnyConstrained fun name node hn _ _ _ _ _ _ =>
      ih name node (perm.subset hn)
    have total : ∀ name node, (name, node) ∈ sortByName properties →
        ∃ constrained, context.constrained node = .ok constrained := by
      intro name node hn
      obtain ⟨_, _, _, _, -, he⟩ := hm.emits_of_mem hn
      exact ⟨_, ih name node (perm.subset hn) he⟩
    rw [EmissionContext.constrained, TypeNode.isConstrained,
      ← TypeNode.isAnyConstrained_perm perm total, any, names]
    cases (TypeNode.requiredNames properties required).isEmpty <;> simp
  | enumeration => exact absurd h not_emits_enumeration
  | reference pointer =>
    obtain ⟨entry, hr, -, hc⟩ := h.reference
    rw [EmissionContext.constrained, TypeNode.isConstrained, hr]
    split at hc
    next hv => simp [hc.1, hv, Except.map]
    next hv =>
      obtain ⟨rfl, -⟩ := hc
      split
      next hd => simp_all [Except.map]
      next => rfl

end EmissionContext

end CheckedTypes
