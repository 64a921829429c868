import CheckedTypes.InstanceCheck
import CheckedTypes.Proofs.TableLookup
import Mathlib.Logic.Relation
import Mathlib.Data.List.Chain
import Mathlib.Data.List.Perm.Subperm
import Mathlib.Order.WellFoundedSet

namespace CheckedTypes

theorem TypeNode.exists_pointer {node : TypeNode} (h : node.isReference = true) :
    ∃ pointer, node = reference pointer := by
  cases node with
  | reference pointer => exact ⟨pointer, rfl⟩
  | _ => cases h

namespace TypeTable

/-- The first type is nothing but a reference to the second. -/
def ForwardsTo (table : TypeTable) (entry other : TypeEntry) : Prop :=
  ∃ pointer, entry.node = .reference pointer ∧ table.resolve pointer = .ok other

/-- No chain of types that are nothing but references leads back to where it began. -/
def ReferencesEnd (table : TypeTable) : Prop :=
  ∀ entry, ¬Relation.TransGen table.ForwardsTo entry entry

theorem ForwardsTo.mem {table : TypeTable} {entry other : TypeEntry}
    (h : Relation.TransGen table.ForwardsTo entry other) : other ∈ table.entries := by
  obtain ⟨_, _, _, _, hr⟩ := Relation.TransGen.tail'_iff.mp h
  exact resolve_mem hr

theorem ReferencesEnd.of_measure {table : TypeTable} (rank : TypeEntry → Nat)
    (h : ∀ entry ∈ table.entries, ∀ other, table.ForwardsTo entry other → rank other < rank entry) :
    table.ReferencesEnd := by
  intro entry cycle
  have far : ∀ other, Relation.TransGen table.ForwardsTo entry other →
      rank other < rank entry := by
    intro other chain
    induction chain with
    | single step => exact h _ (ForwardsTo.mem cycle) _ step
    | tail before step ih => exact (h _ (ForwardsTo.mem before) _ step).trans ih
  exact Nat.lt_irrefl _ (far entry cycle)

/-- No chain comes back where references lead to types that are not references themselves. -/
theorem ReferencesEnd.of_direct {table : TypeTable}
    (h : ∀ entry ∈ table.entries, ∀ other, table.ForwardsTo entry other →
      other.node.isReference = false) : table.ReferencesEnd := by
  refine .of_measure (fun entry => if entry.node.isReference then 1 else 0)
    fun entry hm other step => ?_
  have last := h entry hm other step
  obtain ⟨pointer, hp, -⟩ := step
  rw [last, hp]
  exact Nat.one_pos

/-- What holds of a type if it holds of the type it forwards to holds of all types, as no chain of
references comes back. -/
theorem ReferencesEnd.induction {table : TypeTable} (acyclic : table.ReferencesEnd)
    {motive : TypeEntry → Prop}
    (forwards : ∀ entry ∈ table.entries,
      (∀ other, table.ForwardsTo entry other → motive other) → motive entry)
    {entry : TypeEntry} (hm : entry ∈ table.entries) : motive entry := by
  have order : IsStrictOrder TypeEntry (Function.swap (Relation.TransGen table.ForwardsTo)) :=
    { irrefl := acyclic
      trans := fun _ _ _ h h' => Relation.TransGen.trans h' h }
  have wellFounded := (List.finite_toSet table.entries).wellFoundedOn
    (r := Function.swap (Relation.TransGen table.ForwardsTo))
  refine wellFounded.induction (P := motive) hm fun entry hm ih => forwards entry hm ?_
  rintro other ⟨pointer, hn, hr⟩
  exact ih other (resolve_mem hr) (.single ⟨pointer, hn, hr⟩)

theorem exists_size_eq {table : TypeTable} {entry : TypeEntry} (hm : entry ∈ table.entries) :
    ∃ size, table.size = size + 1 :=
  Nat.exists_eq_succ_of_ne_zero (List.length_pos_of_mem hm).ne'

/-- References lead from one type to another that is none. -/
inductive EndsAt (table : TypeTable) : TypeNode → TypeNode → Prop
  | here {node} : node.isReference = false → EndsAt table node node
  | there {pointer entry target} : table.resolve pointer = .ok entry →
      EndsAt table entry.node target → EndsAt table (.reference pointer) target

theorem EndsAt.isReference {table : TypeTable} {node target : TypeNode}
    (h : table.EndsAt node target) : target.isReference = false := by
  induction h with
  | here h => exact h
  | there _ _ ih => exact ih

theorem dereference_self (table : TypeTable) (hops : Nat) {node : TypeNode}
    (h : node.isReference = false) : table.dereference hops node = .ok (node, false) := by
  cases node <;> cases hops <;> simp_all [dereference, TypeNode.isReference]

theorem dereference_reference {table : TypeTable} {hops : Nat} {pointer : String}
    {entry : TypeEntry} (h : table.resolve pointer = .ok entry) :
    table.dereference (hops + 1) (.reference pointer) =
      (table.dereference hops entry.node).map fun (node, _) => (node, true) := by
  rw [dereference, h]

theorem endsAt_of_dereference {table : TypeTable} {hops : Nat} {node target : TypeNode}
    {restarts : Bool} (h : table.dereference hops node = .ok (target, restarts)) :
    table.EndsAt node target ∧ restarts = node.isReference := by
  induction hops generalizing node restarts with
  | zero =>
    cases hn : node.isReference with
    | false =>
      rw [dereference_self table 0 hn] at h
      obtain ⟨rfl, rfl⟩ := Prod.mk.inj (Except.ok.inj h)
      exact ⟨.here hn, rfl⟩
    | true => cases node <;> simp_all [dereference, TypeNode.isReference]
  | succ hops ih =>
    cases node with
    | reference pointer =>
      cases hr : table.resolve pointer with
      | error fault => simp [dereference, hr] at h
      | ok entry =>
        rw [dereference_reference hr] at h
        cases hd : table.dereference hops entry.node with
        | error fault => simp [hd, Except.map] at h
        | ok reached =>
          obtain ⟨node, _⟩ := reached
          rw [hd] at h
          obtain ⟨rfl, rfl⟩ := Prod.mk.inj (Except.ok.inj h)
          exact ⟨.there hr (ih hd).1, rfl⟩
    | _ =>
      rw [dereference_self table _ rfl] at h
      obtain ⟨rfl, rfl⟩ := Prod.mk.inj (Except.ok.inj h)
      exact ⟨.here rfl, rfl⟩

/-- More hops change nothing where there were enough. -/
theorem dereference_stable {table : TypeTable} {hops more : Nat} {node : TypeNode}
    (enough : table.dereference hops node ≠ .error .endless) (le : hops ≤ more) :
    table.dereference more node = table.dereference hops node := by
  induction hops generalizing node more with
  | zero =>
    cases hn : node.isReference with
    | false => rw [dereference_self _ _ hn, dereference_self _ _ hn]
    | true =>
      obtain ⟨pointer, rfl⟩ := TypeNode.exists_pointer hn
      exact absurd rfl enough
  | succ hops ih =>
    obtain ⟨more, rfl⟩ : ∃ n, more = n + 1 := ⟨more - 1, by omega⟩
    cases hn : node.isReference with
    | false => rw [dereference_self _ _ hn, dereference_self _ _ hn]
    | true =>
      obtain ⟨pointer, rfl⟩ := TypeNode.exists_pointer hn
      cases hr : table.resolve pointer with
      | error fault => rw [dereference, dereference, hr]
      | ok entry =>
        rw [dereference_reference hr] at enough ⊢
        rw [dereference_reference hr, ih (fun endless => enough (by rw [endless]; rfl)) (by omega)]

theorem dereference_mono {table : TypeTable} {hops more : Nat} {node : TypeNode}
    {reached : TypeNode × Bool} (h : table.dereference hops node = .ok reached)
    (le : hops ≤ more) : table.dereference more node = .ok reached :=
  (dereference_stable (by simp [h]) le).trans h

/-- The types that a chain of references passes through, each forwarding to the next. -/
theorem EndsAt.exists_chain {table : TypeTable} {node target : TypeNode}
    (h : table.EndsAt node target) :
    ∃ chain : List TypeEntry, chain.IsChain table.ForwardsTo ∧
      (∀ entry ∈ chain, entry ∈ table.entries) ∧
      (∀ entry ∈ chain.head?, ∃ pointer, node = .reference pointer ∧
        table.resolve pointer = .ok entry) ∧
      table.dereference chain.length node = .ok (target, node.isReference) := by
  induction h with
  | here h => exact ⟨[], .nil, by simp, by simp, by rw [dereference_self _ _ h, h]⟩
  | @there pointer entry target hr _ ih =>
    obtain ⟨chain, linked, inside, first, reached⟩ := ih
    refine ⟨entry :: chain, ?_, ?_, ?_, ?_⟩
    · refine List.isChain_cons.mpr ⟨?_, linked⟩
      intro other hother
      obtain ⟨next, hn, ho⟩ := first other hother
      exact ⟨next, hn, ho⟩
    · exact List.forall_mem_cons.mpr ⟨resolve_mem hr, inside⟩
    · intro other hother
      cases Option.some.inj hother
      exact ⟨pointer, rfl, hr⟩
    · rw [List.length_cons, dereference_reference hr, reached]
      rfl

/-- Where the hops do not suffice, there is a chain of as many types that are all references. -/
theorem exists_chain_of_endless {table : TypeTable} {hops : Nat} {node : TypeNode}
    (h : table.dereference hops node = .error .endless) :
    ∃ chain : List TypeEntry, chain.length = hops ∧ chain.IsChain table.ForwardsTo ∧
      chain ⊆ table.entries ∧ (∀ entry ∈ chain, entry.node.isReference = true) ∧
      node.isReference = true ∧
      ∀ entry ∈ chain.head?, ∃ pointer, node = .reference pointer ∧
        table.resolve pointer = .ok entry := by
  induction hops generalizing node with
  | zero =>
    cases node with
    | reference pointer => exact ⟨[], rfl, .nil, by simp, by simp, rfl, by simp⟩
    | _ => cases (dereference_self table 0 rfl).symm.trans h
  | succ hops ih =>
    cases node with
    | reference pointer =>
      cases hr : table.resolve pointer with
      | error fault => simp [dereference, hr] at h
      | ok entry =>
        rw [dereference_reference hr] at h
        cases hd : table.dereference hops entry.node with
        | ok => simp [hd, Except.map] at h
        | error fault =>
          rw [hd] at h
          cases h
          obtain ⟨chain, rfl, linked, inside, references, reference, first⟩ := ih hd
          refine ⟨entry :: chain, rfl, List.isChain_cons.mpr ⟨first, linked⟩,
            List.cons_subset.mpr ⟨resolve_mem hr, inside⟩,
            List.forall_mem_cons.mpr ⟨reference, references⟩, rfl, ?_⟩
          intro other hother
          cases Option.some.inj hother
          exact ⟨pointer, rfl, hr⟩
    | _ => cases (dereference_self table _ rfl).symm.trans h

theorem ReferencesEnd.nodup {table : TypeTable} (acyclic : table.ReferencesEnd)
    {chain : List TypeEntry} (linked : chain.IsChain table.ForwardsTo) : chain.Nodup := by
  have far : chain.IsChain (Relation.TransGen table.ForwardsTo) :=
    linked.imp fun _ _ h => .single h
  refine (List.isChain_iff_pairwise.mp far).imp ?_
  rintro a b h rfl
  exact acyclic a h

/-- A chain that never comes back is no longer than the table. -/
theorem ReferencesEnd.length_le {table : TypeTable} (acyclic : table.ReferencesEnd)
    {chain : List TypeEntry} (linked : chain.IsChain table.ForwardsTo)
    (inside : chain ⊆ table.entries) :
    chain.length ≤ table.size :=
  (List.subperm_of_subset (acyclic.nodup linked) inside).length_le

/-- As many hops as there are types are enough. -/
theorem dereference_eq_ok_iff {table : TypeTable} (acyclic : table.ReferencesEnd)
    {node target : TypeNode} {restarts : Bool} :
    table.dereference table.size node = .ok (target, restarts) ↔
      table.EndsAt node target ∧ restarts = node.isReference := by
  constructor
  · exact endsAt_of_dereference
  · rintro ⟨h, rfl⟩
    obtain ⟨chain, linked, inside, _, reached⟩ := h.exists_chain
    exact dereference_mono reached (acyclic.length_le linked inside)

theorem checkValue_of_error {table : TypeTable} {node : TypeNode} {fault : CheckError}
    (h : table.dereference table.size node = .error fault) (path : List ValueStep) (value : Json) :
    checkValue table node path value = .error fault := by
  rw [checkValue.eq_def, h]

/-- A value is checked against the type that references lead to, from there on with a new path. -/
theorem checkValue_dereference {table : TypeTable} {node target : TypeNode} {restarts : Bool}
    (h : table.dereference table.size node = .ok (target, restarts)) (path : List ValueStep)
    (value : Json) :
    checkValue table node path value =
      checkValue table target (if restarts then [] else path) value := by
  have stop := table.dereference_self table.size (endsAt_of_dereference h).1.isReference
  rw [checkValue.eq_def table node, checkValue.eq_def table target, h, stop]
  rfl

/-- A value is checked against the type that a reference leads to, unless references lead
nowhere. -/
theorem checkValue_reference_of_ok {table : TypeTable} {pointer : String} {entry : TypeEntry}
    (hr : table.resolve pointer = .ok entry) {reached : TypeNode × Bool}
    (hd : table.dereference table.size (.reference pointer) = .ok reached)
    (path : List ValueStep) (value : Json) :
    checkValue table (.reference pointer) path value = checkValue table entry.node [] value := by
  obtain ⟨target, restarts⟩ := reached
  obtain ⟨size, hs⟩ := exists_size_eq (resolve_mem hr)
  have inner : ∃ restarts, table.dereference table.size entry.node = .ok (target, restarts) := by
    rw [hs, dereference_reference hr] at hd
    obtain ⟨⟨node, restarts⟩, he, hn⟩ := exists_of_map_eq_ok hd
    obtain ⟨rfl, -⟩ := Prod.mk.inj hn
    exact ⟨restarts, dereference_mono he (by omega)⟩
  obtain ⟨again, he⟩ := inner
  obtain ⟨-, rfl⟩ := endsAt_of_dereference hd
  rw [checkValue_dereference hd, checkValue_dereference he, ite_self]
  rfl

theorem checkValue_reference {table : TypeTable} (acyclic : table.ReferencesEnd)
    {pointer : String} {entry : TypeEntry} {target : TypeNode}
    (hr : table.resolve pointer = .ok entry) (he : table.EndsAt entry.node target)
    (path : List ValueStep) (value : Json) :
    checkValue table (.reference pointer) path value = checkValue table entry.node [] value := by
  have ends := (dereference_eq_ok_iff acyclic).mpr ⟨EndsAt.there hr he, rfl⟩
  exact checkValue_reference_of_ok hr ends path value

end TypeTable

end CheckedTypes
