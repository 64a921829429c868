import CheckedTypes.Proofs.ConstraintReach
import CheckedTypes.Proofs.TableLookup

namespace CheckedTypes

namespace TypeTable

/-- Whatever holds before a round and is kept by each type the round adds holds after it. -/
theorem addConstrained_preserves {table : TypeTable} {explicit : Bool} {order : List TypeEntry}
    {validated more : List String} (inv : List String → Prop)
    (keep : ∀ found entry, entry ∈ order → inv found → entry.ident ∉ found →
      entry.node.isConstrained table explicit found = .ok true → inv (found ++ [entry.ident]))
    (start : inv validated) (h : table.addConstrained explicit validated order = .ok more) :
    inv more := by
  induction order generalizing validated with
  | nil =>
    cases Except.ok.inj h
    exact start
  | cons entry rest ih =>
    have keepRest := fun found other hm => keep found other (List.mem_cons_of_mem entry hm)
    rw [addConstrained] at h
    split at h
    next => exact ih keepRest start h
    next hn =>
      split at h
      next => simp at h
      next hc => exact ih keepRest (keep _ _ (by simp) start (by simpa using hn) hc) h
      next => exact ih keepRest start h

theorem addConstrained_extends {table : TypeTable} {explicit : Bool} {order : List TypeEntry}
    {validated more : List String}
    (h : table.addConstrained explicit validated order = .ok more) : validated <+: more :=
  addConstrained_preserves (fun found => validated <+: found)
    (fun _ _ _ hp _ _ => hp.trans (List.prefix_append _ _)) (List.prefix_rfl) h

/-- A round that adds nothing has found every type it went through validated or unconstrained. -/
theorem addConstrained_stable {table : TypeTable} {explicit : Bool} {order : List TypeEntry}
    {validated : List String} (h : table.addConstrained explicit validated order = .ok validated)
    {entry : TypeEntry} (hm : entry ∈ order) (hn : entry.ident ∉ validated) :
    entry.node.isConstrained table explicit validated = .ok false := by
  induction order with
  | nil => simp at hm
  | cons other rest ih =>
    rw [addConstrained] at h
    split at h
    next hc =>
      rcases List.mem_cons.mp hm with rfl | hm
      · exact absurd (by simpa using hc) hn
      · exact ih h hm
    next =>
      split at h
      next => simp at h
      next =>
        have hl := (addConstrained_extends h).length_le
        simp only [List.length_append, List.length_singleton] at hl
        omega
      next hc =>
        rcases List.mem_cons.mp hm with rfl | hm
        · exact hc
        · exact ih h hm

/-- The rounds of the search for the types with a validator, however many there are: each goes
through the types in the given order, and the first that adds nothing is the last. -/
inductive Closes (table : TypeTable) (explicit : Bool) (order : List TypeEntry) :
    List String → Except GenerateError (List String) → Prop
  | fault {validated fault} : table.addConstrained explicit validated order = .error fault →
      Closes table explicit order validated (.error fault)
  | stable {validated} : table.addConstrained explicit validated order = .ok validated →
      Closes table explicit order validated (.ok validated)
  | again {validated more result} : table.addConstrained explicit validated order = .ok more →
      more ≠ validated → Closes table explicit order more result →
      Closes table explicit order validated result

theorem Closes.unique {table : TypeTable} {explicit : Bool} {order : List TypeEntry}
    {validated : List String} {a b : Except GenerateError (List String)}
    (ha : Closes table explicit order validated a) (hb : Closes table explicit order validated b) :
    a = b := by
  induction ha with
  | fault ha =>
    cases hb with
    | fault hb => exact ha.symm.trans hb
    | stable hb => simp [ha] at hb
    | again hb => simp [ha] at hb
  | stable ha =>
    cases hb with
    | fault hb => simp [ha] at hb
    | stable => rfl
    | again hb hne => exact absurd (Except.ok.inj (hb.symm.trans ha)) hne
  | again ha hne _ ih =>
    cases hb with
    | fault hb => simp [ha] at hb
    | stable hb => exact absurd (Except.ok.inj (ha.symm.trans hb)) hne
    | again hb _ rest =>
      cases Except.ok.inj (ha.symm.trans hb)
      exact ih rest

/-- Each validated identifier stands once and belongs to a type of the list. -/
def Counted (order : List TypeEntry) (validated : List String) : Prop :=
  validated.Nodup ∧ validated ⊆ order.map TypeEntry.ident

theorem Counted.length_le {order : List TypeEntry} {validated : List String}
    (h : Counted order validated) : validated.length ≤ order.length := by
  simpa using (List.subperm_of_subset h.1 h.2).length_le

theorem Counted.addConstrained {table : TypeTable} {explicit : Bool} {order : List TypeEntry}
    {validated more : List String} (hc : Counted order validated)
    (h : table.addConstrained explicit validated order = .ok more) : Counted order more := by
  refine addConstrained_preserves (Counted order) ?_ hc h
  intro found entry hm hf hn _
  refine ⟨?_, ?_⟩
  · apply List.nodup_append.mpr
    refine ⟨hf.1, by simp, ?_⟩
    intro a ha b hb he
    rw [he, List.mem_singleton.mp hb] at ha
    exact hn ha
  · intro ident hi
    rcases List.mem_append.mp hi with hi | hi
    · exact hf.2 hi
    · rw [List.mem_singleton.mp hi]
      exact List.mem_map_of_mem hm

/-- The search ends: every round but the last adds a type, and there are no more than the given. -/
theorem closes_exists {table : TypeTable} {explicit : Bool} {order : List TypeEntry}
    {validated : List String} (hc : Counted order validated) :
    ∃ result, Closes table explicit order validated result := by
  induction hn : order.length - validated.length using Nat.strongRecOn generalizing validated with
  | ind n ih =>
    cases h : table.addConstrained explicit validated order with
    | error fault => exact ⟨_, .fault h⟩
    | ok more =>
      by_cases he : more = validated
      · exact ⟨_, .stable (he ▸ h)⟩
      · have hlt : validated.length < more.length :=
          Nat.lt_of_le_of_ne (addConstrained_extends h).length_le
            fun hl => he ((addConstrained_extends h).eq_of_length hl).symm
        have hm := (hc.addConstrained h).length_le
        obtain ⟨result, hr⟩ := ih _ (by omega) (hc.addConstrained h) rfl
        exact ⟨result, .again h he hr⟩

/-- One round for each type that is still missing and one more are enough. -/
theorem closes_closeConstrained {table : TypeTable} {explicit : Bool} {rounds : Nat}
    {validated : List String} (hc : Counted table.sortedEntries validated)
    (enough : table.size < rounds + validated.length) :
    Closes table explicit table.sortedEntries validated
      (table.closeConstrained explicit rounds validated) := by
  have hsize : table.sortedEntries.length = table.size := table.sortedEntries_perm.length_eq
  induction rounds generalizing validated with
  | zero =>
    have := hc.length_le
    omega
  | succ rounds ih =>
    rw [closeConstrained]
    split
    next h => exact .fault h
    next more h =>
      have hp := addConstrained_extends h
      split
      next hl =>
        have he := hp.eq_of_length hl.symm
        subst he
        exact .stable h
      next hl =>
        have := hp.length_le
        exact .again h (fun he => hl (by rw [he])) (ih (hc.addConstrained h) (by omega))

end TypeTable

end CheckedTypes
