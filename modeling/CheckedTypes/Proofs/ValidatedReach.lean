import CheckedTypes.Proofs.ConstraintClosure
import Mathlib

namespace CheckedTypes

namespace TypeTable

/-- A part of the first type, at any depth, refers to the second. -/
def Refers (table : TypeTable) (entry other : TypeEntry) : Prop :=
  ∃ pointer, (TypeNode.reference pointer).Within entry.node ∧ table.resolve pointer = .ok other

/-- The type is an enumeration or restricts its values itself. -/
def IsChecked (entry : TypeEntry) : Prop :=
  entry.node.isEnumeration ∨ entry.node.HasConstraintWithin

/-- A chain of references leads from the type to one that restricts its values; where references do
not count, the type has to do so itself. -/
def LeadsToCheck (table : TypeTable) (explicit : Bool) (entry : TypeEntry) : Prop :=
  if explicit then ∃ last, Relation.ReflTransGen table.Refers entry last ∧ IsChecked last
  else IsChecked entry

theorem LeadsToCheck.of_isChecked {table : TypeTable} {explicit : Bool} {entry : TypeEntry}
    (h : IsChecked entry) : table.LeadsToCheck explicit entry := by
  unfold LeadsToCheck
  split
  · exact ⟨entry, .refl, h⟩
  · exact h

/-- The types that the search starts with. -/
def enumerationIdents (order : List TypeEntry) : List String :=
  (order.filter (·.node.isEnumeration)).map TypeEntry.ident

/-- Every validated identifier belongs to a type that leads to a constraint. -/
def Sound (table : TypeTable) (explicit : Bool) (validated : List String) : Prop :=
  ∀ ident ∈ validated, ∃ entry ∈ table.entries, entry.ident = ident ∧
    table.LeadsToCheck explicit entry

theorem Sound.leads {table : TypeTable} {explicit : Bool} {validated : List String}
    (h : table.Sound explicit validated) {entry : TypeEntry} (hm : entry ∈ table.entries)
    (hi : entry.ident ∈ validated) : table.LeadsToCheck explicit entry := by
  obtain ⟨other, ho, he, hl⟩ := h _ hi
  exact eq_of_ident ho hm he ▸ hl

theorem leads_of_isConstrained {table : TypeTable} {explicit : Bool} {validated : List String}
    (hs : table.Sound explicit validated) {entry : TypeEntry}
    (hc : entry.node.isConstrained table explicit validated = .ok true) :
    table.LeadsToCheck explicit entry := by
  rcases TypeNode.isConstrained_true hc with hn | ⟨rfl, pointer, other, hw, hr, hi⟩
  · exact .of_isChecked (.inr hn)
  · obtain ⟨last, chain, checked⟩ := by
      simpa [LeadsToCheck] using hs.leads (resolve_mem hr) hi
    simp only [LeadsToCheck, if_true]
    exact ⟨last, .head ⟨pointer, hw, hr⟩ chain, checked⟩

theorem Sound.enumerationIdents {table : TypeTable} {explicit : Bool} {order : List TypeEntry}
    (ho : order.Perm table.entries) : table.Sound explicit (enumerationIdents order) := by
  intro ident hi
  obtain ⟨entry, hm, rfl⟩ := List.mem_map.mp hi
  obtain ⟨hm, he⟩ := List.mem_filter.mp hm
  exact ⟨entry, ho.subset hm, rfl, .of_isChecked (.inl he)⟩

theorem Sound.addConstrained {table : TypeTable} {explicit : Bool} {order : List TypeEntry}
    {validated more : List String} (ho : order.Perm table.entries)
    (hs : table.Sound explicit validated)
    (h : table.addConstrained explicit validated order = .ok more) :
    table.Sound explicit more := by
  refine addConstrained_preserves (table.Sound explicit) ?_ hs h
  intro found entry hm hf _ hc ident hi
  rcases List.mem_append.mp hi with hi | hi
  · exact hf ident hi
  · exact ⟨entry, ho.subset hm, (List.mem_singleton.mp hi).symm, leads_of_isConstrained hf hc⟩

/-- What has been found when the search ends: nothing wrong, all it began with, and no constrained
type is left. -/
theorem Closes.spec {table : TypeTable} {explicit : Bool} {order : List TypeEntry}
    {validated found : List String} (ho : order.Perm table.entries)
    (hs : table.Sound explicit validated)
    (h : Closes table explicit order validated (.ok found)) :
    table.Sound explicit found ∧ validated ⊆ found ∧
      ∀ entry ∈ table.entries, entry.ident ∉ found →
        entry.node.isConstrained table explicit found = .ok false := by
  generalize hr : (Except.ok found : Except GenerateError (List String)) = result at h
  induction h with
  | fault => cases hr
  | stable h =>
    cases Except.ok.inj hr
    exact ⟨hs, List.Subset.refl _, fun entry hm hn =>
      addConstrained_stable h (ho.symm.subset hm) hn⟩
  | again h _ _ ih =>
    obtain ⟨sound, kept, closed⟩ := ih (hs.addConstrained ho h) hr
    exact ⟨sound, fun _ hi => kept ((addConstrained_extends h).subset hi), closed⟩

/-- A type outside a closed set of validated types restricts nothing. -/
theorem not_isChecked_of_closed {table : TypeTable} {explicit : Bool} {found : List String}
    (enumerations : ∀ entry ∈ table.entries, entry.node.isEnumeration → entry.ident ∈ found)
    (closed : ∀ entry ∈ table.entries, entry.ident ∉ found →
      entry.node.isConstrained table explicit found = .ok false)
    {entry : TypeEntry} (hm : entry ∈ table.entries) (hn : entry.ident ∉ found) :
    ¬IsChecked entry := by
  rintro (he | ⟨part, hw, hc⟩)
  · exact hn (enumerations entry hm he)
  · exact TypeNode.not_hasConstraint_of_isConstrained
      (TypeNode.isConstrained_false (closed entry hm hn) hw) hc

/-- The complement of a closed set of validated types is closed under references. -/
theorem not_leads_of_closed {table : TypeTable} {explicit : Bool} {found : List String}
    (enumerations : ∀ entry ∈ table.entries, entry.node.isEnumeration → entry.ident ∈ found)
    (closed : ∀ entry ∈ table.entries, entry.ident ∉ found →
      entry.node.isConstrained table explicit found = .ok false)
    {entry : TypeEntry} (hm : entry ∈ table.entries) (hn : entry.ident ∉ found) :
    ¬table.LeadsToCheck explicit entry := by
  cases explicit with
  | false =>
    simp only [LeadsToCheck, Bool.false_eq_true, if_false]
    exact not_isChecked_of_closed enumerations closed hm hn
  | true =>
    simp only [LeadsToCheck, if_true]
    rintro ⟨last, chain, checked⟩
    induction chain using Relation.ReflTransGen.head_induction_on with
    | refl => exact not_isChecked_of_closed enumerations closed hm hn checked
    | head step _ ih =>
      obtain ⟨pointer, hw, hr⟩ := step
      obtain ⟨other, ho, hi⟩ := TypeNode.resolve_of_isConstrained_false
        (TypeNode.isConstrained_false (closed _ hm hn) hw)
      cases Except.ok.inj (hr.symm.trans ho)
      exact ih (resolve_mem hr) hi

theorem Counted.enumerationIdents {table : TypeTable} {order : List TypeEntry}
    (ho : order.Perm table.entries) : Counted order (enumerationIdents order) := by
  have sub : (TypeTable.enumerationIdents order).Sublist (order.map TypeEntry.ident) :=
    List.filter_sublist.map _
  exact ⟨sub.nodup ((ho.map _).nodup_iff.mpr table.nodup_ident), sub.subset⟩

/-- The search finds exactly the types that lead to a constraint, in whatever order it goes. -/
theorem Closes.mem_iff {table : TypeTable} {explicit : Bool} {order : List TypeEntry}
    {found : List String} (ho : order.Perm table.entries)
    (h : Closes table explicit order (enumerationIdents order) (.ok found)) {ident : String} :
    ident ∈ found ↔ ∃ entry ∈ table.entries, entry.ident = ident ∧
      table.LeadsToCheck explicit entry := by
  obtain ⟨sound, kept, closed⟩ := h.spec ho (.enumerationIdents ho)
  constructor
  · exact sound ident
  · rintro ⟨entry, hm, rfl, hl⟩
    by_contra hn
    refine not_leads_of_closed ?_ closed hm hn hl
    intro other hother he
    exact kept (List.mem_map_of_mem (List.mem_filter.mpr ⟨ho.symm.subset hother, he⟩))

/-- Against the types that the search finds, a type is constrained exactly if it is among them. -/
theorem Closes.isConstrained_iff {table : TypeTable} {explicit : Bool} {order : List TypeEntry}
    {found : List String} (ho : order.Perm table.entries)
    (h : Closes table explicit order (enumerationIdents order) (.ok found)) {entry : TypeEntry}
    (hm : entry ∈ table.entries) (hne : entry.node.isEnumeration = false) {constrained : Bool}
    (hc : entry.node.isConstrained table explicit found = .ok constrained) :
    constrained = true ↔ entry.ident ∈ found := by
  obtain ⟨sound, -, closed⟩ := h.spec ho (.enumerationIdents ho)
  constructor
  · rintro rfl
    exact (h.mem_iff ho).mpr ⟨entry, hm, rfl, leads_of_isConstrained sound hc⟩
  · intro hi
    by_contra hf
    rw [Bool.not_eq_true] at hf
    rw [hf] at hc
    have unchecked : ¬IsChecked entry := by
      rintro (he | ⟨part, hw, hp⟩)
      · simp [hne] at he
      · exact TypeNode.not_hasConstraint_of_isConstrained
          (TypeNode.isConstrained_false hc hw) hp
    have leads := sound.leads hm hi
    cases explicit with
    | false => exact unchecked (by simpa [LeadsToCheck] using leads)
    | true =>
      obtain ⟨last, chain, checked⟩ := by simpa [LeadsToCheck] using leads
      rcases Relation.ReflTransGen.cases_head chain with rfl | ⟨next, ⟨pointer, hw, hr⟩, rest⟩
      · exact unchecked checked
      · -- the next type of the chain leads to the constraint too, but the reference to it does
        -- not count, so it is not among those found
        obtain ⟨other, hother, hn⟩ := TypeNode.resolve_of_isConstrained_false
          (TypeNode.isConstrained_false hc hw)
        cases Except.ok.inj (hr.symm.trans hother)
        exact hn ((h.mem_iff ho).mpr ⟨next, resolve_mem hr, rfl, by
          simpa [LeadsToCheck] using ⟨last, rest, checked⟩⟩)

theorem closes_validatedTypes (table : TypeTable) (explicit : Bool) :
    Closes table explicit table.sortedEntries (enumerationIdents table.sortedEntries)
      (table.validatedTypes explicit) :=
  closes_closeConstrained (.enumerationIdents table.sortedEntries_perm) (by omega)

theorem addConstrained_total {table : TypeTable} {explicit : Bool} {order : List TypeEntry}
    (each : ∀ entry ∈ order, ∀ found, ∃ constrained,
      entry.node.isConstrained table explicit found = .ok constrained) (validated : List String) :
    ∃ more, table.addConstrained explicit validated order = .ok more := by
  induction order generalizing validated with
  | nil => exact ⟨validated, rfl⟩
  | cons entry rest ih =>
    obtain ⟨here, each⟩ := List.forall_mem_cons.mp each
    rw [addConstrained]
    split
    next => exact ih each validated
    next =>
      obtain ⟨constrained, hc⟩ := here validated
      cases constrained with
      | false => simpa [hc] using ih each validated
      | true => simpa [hc] using ih each (validated ++ [entry.ident])

theorem Closes.exists_ok {table : TypeTable} {explicit : Bool} {order : List TypeEntry}
    {validated : List String} {result : Except GenerateError (List String)}
    (h : Closes table explicit order validated result)
    (each : ∀ entry ∈ order, ∀ found, ∃ constrained,
      entry.node.isConstrained table explicit found = .ok constrained) :
    ∃ found, result = .ok found := by
  induction h with
  | @fault validated fault h =>
    obtain ⟨more, hm⟩ := addConstrained_total each validated
    simp [hm] at h
  | stable => exact ⟨_, rfl⟩
  | again _ _ _ ih => exact ih

/-- Where references do not count, nothing can fail. -/
theorem Closes.total {table : TypeTable} {order : List TypeEntry} {validated : List String}
    {result : Except GenerateError (List String)}
    (h : Closes table false order validated result) : ∃ found, result = .ok found :=
  h.exists_ok fun _ _ => TypeNode.isConstrained_total (by simp)

/-- The search for the types with a validator ends, in whatever order it goes through them. Where
references do not count it never fails and finds the types that restrict their values themselves;
where they count and it does not fail, it finds those from which references lead to such a type. -/
theorem validatedTypes_reachable (table : TypeTable) :
    (∀ explicit order, order.Perm table.entries →
      ∃! result, Closes table explicit order (enumerationIdents order) result) ∧
    (∀ explicit, Closes table explicit table.sortedEntries
      (enumerationIdents table.sortedEntries) (table.validatedTypes explicit)) ∧
    (∃ found, table.validatedTypes false = .ok found ∧
      ∀ ident, ident ∈ found ↔ ∃ entry ∈ table.entries, entry.ident = ident ∧ IsChecked entry) ∧
    (∀ found, table.validatedTypes true = .ok found →
      ∀ ident, ident ∈ found ↔ ∃ entry ∈ table.entries, entry.ident = ident ∧
        ∃ last, Relation.ReflTransGen table.Refers entry last ∧ IsChecked last) ∧
    (∀ explicit order other found more, order.Perm table.entries → other.Perm table.entries →
      Closes table explicit order (enumerationIdents order) (.ok found) →
      Closes table explicit other (enumerationIdents other) (.ok more) →
      ∀ ident, ident ∈ found ↔ ident ∈ more) := by
  refine ⟨?_, table.closes_validatedTypes, ?_, ?_, ?_⟩
  · intro explicit order ho
    obtain ⟨result, hr⟩ : ∃ result, Closes table explicit order (enumerationIdents order) result :=
      closes_exists (Counted.enumerationIdents ho)
    exact ⟨result, hr, fun other h => h.unique hr⟩
  · have run := table.closes_validatedTypes false
    obtain ⟨found, hf⟩ := run.total
    refine ⟨found, hf, fun ident => ?_⟩
    rw [hf] at run
    simpa [LeadsToCheck] using run.mem_iff table.sortedEntries_perm
  · intro found hf ident
    have run := table.closes_validatedTypes true
    rw [hf] at run
    simpa [LeadsToCheck] using run.mem_iff table.sortedEntries_perm
  · intro explicit order other found more ho hother hf hm ident
    rw [hf.mem_iff ho, hm.mem_iff hother]

/-- A type that only refers to itself, one that refers to itself and to a text, and the text. -/
def ringTable : TypeTable where
  entries := [
    ⟨"ring", ["ring"], .object [("next", .reference "#/definitions/ring")] none, "Ring"⟩,
    ⟨"list", ["list"], .object [("next", .reference "#/definitions/list"),
      ("value", .array (some (.reference "#/$defs/text")) false {})] none, "List"⟩,
    ⟨"text", ["text"], .string { minLength := some 1 }, "Text"⟩]

theorem validatedTypes_reachable_ring :
    ringTable.validatedTypes true = .ok ["Text", "List"] ∧
      ∀ ident, ident ∈ ["Text", "List"] ↔ ∃ entry ∈ ringTable.entries, entry.ident = ident ∧
        ∃ last, Relation.ReflTransGen ringTable.Refers entry last ∧ IsChecked last := by
  have found : ringTable.validatedTypes true = .ok ["Text", "List"] := by cbv
  obtain ⟨_, _, _, reached, _⟩ := validatedTypes_reachable ringTable
  exact ⟨found, reached _ found⟩

end TypeTable

end CheckedTypes
