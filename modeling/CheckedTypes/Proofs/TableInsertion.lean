import CheckedTypes.TypeTable
import Mathlib.Data.List.Nodup

namespace CheckedTypes

namespace TypeTable

theorem eq_of_entries {table other : TypeTable} (entries : table.entries = other.entries)
    (root : table.root = other.root) : table = other := by
  cases table
  cases other
  simp_all

/-- Adding a type is possible exactly if there is a table of the types with it behind them. -/
theorem insert_eq_ok_iff {table result : TypeTable} {entry : TypeEntry} :
    table.insert entry = .ok result ↔
      result.entries = table.entries ++ [entry] ∧ result.root = table.root := by
  constructor
  · intro h
    unfold insert at h
    split at h
    next => cases h
    next =>
      split at h
      next => cases h
      next =>
        cases Except.ok.inj h
        exact ⟨rfl, rfl⟩
  · rintro ⟨entries, root⟩
    have names := result.nodup_name
    have idents := result.nodup_ident
    rw [entries, List.map_append, List.nodup_append] at names idents
    have newName : table.get? entry.name = none := by
      rw [get?, List.find?_eq_none]
      intro other hm
      have := names.2.2 other.name (List.mem_map_of_mem hm) entry.name (by simp)
      simpa using this
    have newIdent : table.getIdent? entry.ident = none := by
      rw [getIdent?, List.find?_eq_none]
      intro other hm
      have := idents.2.2 other.ident (List.mem_map_of_mem hm) entry.ident (by simp)
      simpa using this
    unfold insert
    split
    next hn => simp [newName] at hn
    next =>
      split
      next hi => simp [newIdent] at hi
      next => exact congrArg Except.ok (eq_of_entries entries.symm root.symm)

/-- Adding types is possible exactly if there are no faults among them and there is a table of the
types with all of them behind them, in their order. -/
theorem insertAll_eq_ok_iff {table result : TypeTable}
    {added : List (Except GenerateError TypeEntry)} :
    table.insertAll added = .ok result ↔ ∃ entries : List TypeEntry, added = entries.map .ok ∧
      result.entries = table.entries ++ entries ∧ result.root = table.root := by
  induction added generalizing table with
  | nil =>
    rw [insertAll]
    constructor
    · intro h
      cases Except.ok.inj h
      exact ⟨[], rfl, by simp, rfl⟩
    · rintro ⟨entries, he, hr, root⟩
      rw [List.nil_eq, List.map_eq_nil_iff] at he
      rw [he, List.append_nil] at hr
      exact congrArg Except.ok (eq_of_entries hr.symm root.symm)
  | cons first rest ih =>
    constructor
    · intro h
      cases first with
      | error fault => cases h
      | ok entry =>
        rw [insertAll] at h
        split at h
        next => cases h
        next between hb =>
          obtain ⟨grown, root⟩ := insert_eq_ok_iff.mp hb
          obtain ⟨entries, rfl, hr, same⟩ := ih.mp h
          rw [grown, List.append_assoc] at hr
          exact ⟨entry :: entries, rfl, hr, same.trans root⟩
    · rintro ⟨entries, he, hr, root⟩
      cases entries with
      | nil => cases he
      | cons entry others =>
        obtain ⟨rfl, rfl⟩ := List.cons.inj he
        have grown : result.entries = (table.entries ++ [entry]) ++ others := by simp [hr]
        have begun : table.entries ++ [entry] <+: result.entries := ⟨others, grown.symm⟩
        let between : TypeTable := {
          entries := table.entries ++ [entry]
          root := table.root
          nodup_name := (begun.sublist.map _).nodup result.nodup_name
          nodup_ident := (begun.sublist.map _).nodup result.nodup_ident }
        have hb : table.insert entry = .ok between := insert_eq_ok_iff.mpr ⟨rfl, rfl⟩
        rw [insertAll, hb]
        exact ih.mpr ⟨others, rfl, grown, root⟩

end TypeTable

end CheckedTypes
