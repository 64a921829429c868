import CheckedTypes.Proofs.Dispatch
import CheckedTypes.Proofs.FileItem
import CheckedTypes.Proofs.ValidatedReach

namespace CheckedTypes

open Statement

namespace EmissionContext

variable {context : EmissionContext} {next : Nat} {entries : List TypeEntry}
  {items : List FileItem}

theorem EmitsItem.isEnumeration_or_constrained {entry : TypeEntry} {item : FileItem}
    (h : context.EmitsItem next entry item) :
    entry.node.isEnumeration = true ∧ item.hasValidator = true ∨
      entry.node.isEnumeration = false ∧
        context.constrained entry.node = .ok item.hasValidator := by
  cases h with
  | enumeration hn => exact .inl ⟨by rw [hn]; rfl, rfl⟩
  | @type ignorable checks patterns hn he =>
    refine .inr ⟨hn, ?_⟩
    have hc : context.constrained entry.node = .ok !ignorable := he.constrained
    rw [hc]
    cases ignorable <;> rfl

/-- A type without a validator calls none, so no call is left out with it. -/
theorem EmitsItem.dispatches {entry : TypeEntry} {item : FileItem}
    (h : context.EmitsItem next entry item) :
    (dispatchesAll item.checks).Perm
      ((entry.node.references FileParts.root).filterMap context.dispatched?) := by
  cases h with
  | enumeration hn =>
    rw [hn]
    exact .refl _
  | @type ignorable checks patterns hn he =>
    have calls := he.dispatches
    cases ignorable with
    | false => exact calls
    | true =>
      rw [he.dispatches_of_ignorable] at calls
      exact calls

end EmissionContext

namespace TypeTable

variable {table : TypeTable} {target : Target} {modulePath text : String}
  {validated : List String} {items : List FileItem} {file : FileParts}

theorem Renders.closes (h : table.Renders target modulePath text validated items file) :
    Closes table target.dispatches table.sortedEntries (enumerationIdents table.sortedEntries)
      (.ok validated) :=
  h.validated_eq ▸ table.closes_validatedTypes target.dispatches

/-- The validators are those of the validated types, one for each. -/
theorem Renders.mem_validatorIdents (h : table.Renders target modulePath text validated items file)
    {entry : TypeEntry} (hm : entry ∈ table.entries) {start : Nat} {item : FileItem}
    (hi : EmissionContext.EmitsItem { target, table, validated, current := "" } start entry item) :
    item.hasValidator = true ↔ entry.ident ∈ validated := by
  have ho := table.sortedEntries_perm
  rcases hi.isEnumeration_or_constrained with ⟨he, hv⟩ | ⟨hne, hc⟩
  · rw [hv]
    refine iff_of_true rfl ((h.closes.mem_iff ho).mpr ⟨entry, hm, rfl, .of_isChecked (.inl he)⟩)
  · exact h.closes.isConstrained_iff ho hm hne hc

theorem Renders.nodup_ident (h : table.Renders target modulePath text validated items file) :
    (items.map FileItem.ident).Nodup := by
  rw [h.emits.map_ident]
  exact (table.sortedEntries_perm.map _).nodup_iff.mpr table.nodup_ident

theorem Renders.nodup_validatorIdents
    (h : table.Renders target modulePath text validated items file) :
    (validatorIdents items).Nodup :=
  (List.filter_sublist.map _).nodup h.nodup_ident

theorem Renders.validatorIdents_iff
    (h : table.Renders target modulePath text validated items file) {ident : String} :
    ident ∈ validatorIdents items ↔ ident ∈ validated := by
  constructor
  · intro hi
    obtain ⟨item, hmem, rfl⟩ := List.mem_map.mp hi
    obtain ⟨hmem, hv⟩ := List.mem_filter.mp hmem
    obtain ⟨start, entry, he, hitem⟩ := h.emits.exists_entry hmem
    rw [hitem.ident]
    exact (h.mem_validatorIdents (mem_sortedEntries.mp he) hitem).mp hv
  · intro hi
    obtain ⟨entry, hm, rfl, -⟩ := (h.closes.mem_iff table.sortedEntries_perm).mp hi
    obtain ⟨start, item, hmem, hitem⟩ := h.emits.exists_item (mem_sortedEntries.mpr hm)
    rw [← hitem.ident]
    exact List.mem_map_of_mem (List.mem_filter.mpr ⟨hmem, (h.mem_validatorIdents hm hitem).mpr hi⟩)

/-- A call names a validator that the file has. -/
theorem Renders.dispatched_mem (h : table.Renders target modulePath text validated items file)
    {item : FileItem} (hm : item ∈ items) {call : String × Cursor}
    (hc : call ∈ dispatchesAll item.checks) : call.1 ∈ validatorIdents items := by
  obtain ⟨start, entry, -, hitem⟩ := h.emits.exists_entry hm
  obtain ⟨reference, -, hd⟩ := List.mem_filterMap.mp (hitem.dispatches.subset hc)
  rw [h.validatorIdents_iff]
  unfold EmissionContext.dispatched? at hd
  split at hd
  next other ho =>
    split at hd
    next hv =>
      cases Option.some.inj hd
      exact hv.2
    next => cases hd
  next => cases hd

end TypeTable

end CheckedTypes
