import CheckedTypes.TypeTable
import Mathlib.Data.List.Forall2
import Mathlib.Data.List.Nodup

namespace CheckedTypes

theorem exists_of_map_eq_ok {ε α β : Type} {f : α → β} {result : Except ε α} {b : β}
    (h : result.map f = .ok b) : ∃ a, result = .ok a ∧ f a = b := by
  cases result with
  | error => cases h
  | ok a => exact ⟨a, rfl, Except.ok.inj h⟩

theorem find?_of_nodup {α : Type} {key : α → String} {list : List α}
    (nodup : (list.map key).Nodup) {a : α} (hm : a ∈ list) :
    list.find? (fun other => key other == key a) = some a := by
  cases hf : list.find? fun other => key other == key a with
  | none => simpa using List.find?_eq_none.mp hf a hm
  | some other =>
    have same : key other = key a := by simpa using List.find?_some hf
    rw [List.inj_on_of_nodup_map nodup (List.mem_of_find?_eq_some hf) hm same]

theorem lookup_of_nodup {α : Type} {named : List (String × α)}
    (nodup : (named.map Prod.fst).Nodup) {name : String} {a : α} (hm : (name, a) ∈ named) :
    named.lookup name = some a := by
  obtain ⟨before, after, rfl⟩ := List.append_of_mem hm
  refine List.lookup_eq_some_iff.mpr ⟨before, after, rfl, fun other ho => ?_⟩
  rw [List.map_append, List.map_cons] at nodup
  have := (List.nodup_append.mp nodup).2.2 other.1 (List.mem_map_of_mem ho) name (by simp)
  simpa using Ne.symm this

section

variable {α β : Type} {R : α → β → Prop} {list : List α} {others : List β}

theorem exists_left_of_forall₂ (h : List.Forall₂ R list others) {b : β} (hm : b ∈ others) :
    ∃ a ∈ list, R a b := by
  induction h with
  | nil => cases hm
  | cons first _ ih =>
    rcases List.mem_cons.mp hm with rfl | hm
    · exact ⟨_, List.mem_cons_self, first⟩
    · obtain ⟨a, ha, hr⟩ := ih hm
      exact ⟨a, List.mem_cons_of_mem _ ha, hr⟩

theorem exists_right_of_forall₂ (h : List.Forall₂ R list others) {a : α} (hm : a ∈ list) :
    ∃ b ∈ others, R a b :=
  exists_left_of_forall₂ h.flip hm

end

namespace TypeTable

theorem mem_sortedEntries {table : TypeTable} {entry : TypeEntry} :
    entry ∈ table.sortedEntries ↔ entry ∈ table.entries := by
  simp [sortedEntries]

theorem sortedEntries_perm (table : TypeTable) : table.sortedEntries.Perm table.entries :=
  List.mergeSort_perm _ _

theorem get?_mem {table : TypeTable} {name : String} {entry : TypeEntry}
    (h : table.get? name = some entry) : entry ∈ table.entries :=
  List.mem_of_find?_eq_some h

/-- A table finds exactly the types that it holds, each under its own name. -/
theorem get?_eq_some_iff {table : TypeTable} {name : String} {entry : TypeEntry} :
    table.get? name = some entry ↔ entry ∈ table.entries ∧ entry.name = name := by
  constructor
  · intro h
    exact ⟨get?_mem h, by simpa using List.find?_some h⟩
  · rintro ⟨hm, rfl⟩
    exact find?_of_nodup table.nodup_name hm

theorem getIdent?_eq_some_iff {table : TypeTable} {ident : String} {entry : TypeEntry} :
    table.getIdent? ident = some entry ↔ entry ∈ table.entries ∧ entry.ident = ident := by
  constructor
  · intro h
    exact ⟨List.mem_of_find?_eq_some h, by simpa using List.find?_some h⟩
  · rintro ⟨hm, rfl⟩
    exact find?_of_nodup table.nodup_ident hm

theorem lookup?_mem {table : TypeTable} {name : String} {entry : TypeEntry}
    (h : table.lookup? name = some entry) : entry ∈ table.entries := by
  unfold lookup? at h
  cases hg : table.get? name with
  | none =>
    rw [hg] at h
    exact (getIdent?_eq_some_iff.mp h).1
  | some other =>
    rw [hg] at h
    cases h
    exact get?_mem hg

theorem resolve_mem {table : TypeTable} {pointer : String} {entry : TypeEntry}
    (h : table.resolve pointer = .ok entry) : entry ∈ table.entries := by
  unfold resolve at h
  split at h
  next =>
    split at h
    next => simp at h
    next =>
      dsimp only at h
      split at h
      next => simp at h
      next hf =>
        cases Except.ok.inj h
        obtain ⟨_, _, hg⟩ := Option.bind_eq_some_iff.mp hf
        exact get?_mem hg
  next => simp at h

theorem lookup?_name {table : TypeTable} {entry : TypeEntry} (hm : entry ∈ table.entries) :
    table.lookup? entry.name = some entry := by
  rw [lookup?, get?, find?_of_nodup table.nodup_name hm]
  rfl

/-- Identifiers tell the types of a table apart. -/
theorem eq_of_ident {table : TypeTable} {a b : TypeEntry} (ha : a ∈ table.entries)
    (hb : b ∈ table.entries) (h : a.ident = b.ident) : a = b :=
  List.inj_on_of_nodup_map table.nodup_ident ha hb h

end TypeTable

end CheckedTypes
