import CheckedTypes.Proofs.ValidatorPlacement
import CheckedTypes.Proofs.WrittenMethods
import Mathlib

namespace CheckedTypes

open Statement

namespace Target

/-- The line that a validator starts with in a file. -/
def validatorRow : Target → (ident : String) → List Char
  | go, ident => (methodHeader ident).toList
  | typescript, ident => ("    " ++ checkHeader ident).toList

/-- A line that some validator starts with. -/
def isValidatorRow : Target → List Char → Bool
  | go => isMethodLine
  | typescript => isKeyRow

/-- The lines of the part of a file where the validators stand: the declarations in Go, the table of
validators in TypeScript. -/
structure HasRows (target : Target) (text : String) (rows : List (List Char)) : Prop where
  plain : ∀ row ∈ rows, '\n' ∉ row
  go : target = .go → ∃ before, text.toList = before ++ joinLines rows
  typescript : target = .typescript → ∃ before after, text.toList =
    before ++ joinLines (checkTableHeader.toList :: rows ++ ["\x7d;".toList]) ++ after

theorem validatorRow_injective (target : Target) : Function.Injective target.validatorRow := by
  intro ident other h
  cases target with
  | go => exact methodHeader_injective (String.toList_inj.mp h)
  | typescript =>
    simp only [validatorRow, String.toList_append] at h
    exact checkHeader_injective (String.toList_inj.mp (List.append_cancel_left h))

theorem isValidatorRow_validatorRow (target : Target) (ident : String) :
    target.isValidatorRow (target.validatorRow ident) = true := by
  cases target with
  | go => exact isMethodLine_methodHeader ident
  | typescript => simp [isValidatorRow, validatorRow, isKeyRow, checkHeader, quote, quotedChars]

end Target

namespace TypeTable

variable {table : TypeTable} {target : Target} {modulePath text : String}
  {validated : List String} {items : List FileItem} {file : FileParts}

/-- The lines that validators start with are those of the validated types. Where they stand among
declarations, this needs names that do not go on in lines of their own. -/
theorem Renders.exists_rows (h : table.Renders target modulePath text validated items file) :
    ∃ rows, target.HasRows text rows ∧
      (target = .typescript ∨ table.NamesOnOneLine → rows.filter target.isValidatorRow =
        (validatorIdents items).map target.validatorRow) ∧
      (target = .go → ∀ ident ∈ validatorIdents items,
        textLines ((methodHeader ident).toList ++ ['\n']) <:+: rows) := by
  cases target with
  | go =>
    obtain ⟨before, rows, placed, plain, headers, keys⟩ := h.methods
    exact ⟨rows, ⟨plain, fun _ => ⟨before, placed⟩, nofun⟩,
      fun names => keys (by simpa using names), fun _ => headers⟩
  | typescript =>
    obtain ⟨before, rows, after, placed, plain, keys⟩ := h.checkTable
    exact ⟨rows, ⟨plain, nofun, fun _ => ⟨before, after, placed⟩⟩, fun _ => keys, nofun⟩

/-- The number of validators that start as the one of a type does. -/
theorem Renders.count_validatorRow
    (h : table.Renders target modulePath text validated items file) {rows : List (List Char)}
    (keys : rows.filter target.isValidatorRow = (validatorIdents items).map target.validatorRow)
    (ident : String) :
    rows.count (target.validatorRow ident) = if ident ∈ validated then 1 else 0 := by
  rw [← List.count_filter (target.isValidatorRow_validatorRow ident), keys,
    List.count_map_of_injective _ _ target.validatorRow_injective, h.nodup_validatorIdents.count]
  exact if_congr h.validatorIdents_iff rfl rfl

/-- A rendered file has one validator for each validated type and none for the others: a method in
Go, an entry of the table of validators in TypeScript. Each reference to a validated type is one
call of its validator where validators call each other, there are no other calls, and what is called
is there. The emitter leaves out the checks of a type exactly where the search finds it
unconstrained. -/
theorem render_validators (table : TypeTable) (target : Target) (modulePath : String) :
    (∀ text, table.render target modulePath = .ok text → ∃ validated items file rows,
      table.Renders target modulePath text validated items file ∧ target.HasRows text rows ∧
      (∀ entry ∈ table.entries, (validatorIdents items).count entry.ident =
        if entry.ident ∈ validated then 1 else 0) ∧
      (target = .typescript ∨ table.NamesOnOneLine →
        rows.filter target.isValidatorRow = (validatorIdents items).map target.validatorRow ∧
        ∀ entry ∈ table.entries, rows.count (target.validatorRow entry.ident) =
          if entry.ident ∈ validated then 1 else 0) ∧
      (target = .go → ∀ ident ∈ validatorIdents items,
        textLines ((methodHeader ident).toList ++ ['\n']) <:+: rows) ∧
      (∀ entry ∈ table.entries, ∃ item ∈ items, item.ident = entry.ident ∧
        (dispatchesAll item.checks).Perm
          ((entry.node.references FileParts.root).filterMap fun (pointer, place) =>
            match table.resolve pointer with
            | .ok other =>
              if target.dispatches ∧ other.ident ∈ validated then some (other.ident, place)
              else none
            | .error _ => none)) ∧
      ∀ item ∈ items, ∀ ident place, (ident, place) ∈ dispatchesAll item.checks →
        ident ∈ validatorIdents items) ∧
    ∀ validated current cursor optional next (node : TypeNode) ignorable checks,
      (EmissionContext.emission { target, table, validated, current } cursor optional next
        node.sorted).outcome = .ok (ignorable, checks) →
      node.isConstrained table target.dispatches validated = .ok !ignorable := by
  constructor
  · intro text h
    obtain ⟨validated, items, file, hr⟩ := renders_of_render h
    obtain ⟨rows, placed, keys, headers⟩ := hr.exists_rows
    refine ⟨validated, items, file, rows, hr, placed, ?_, ?_, headers, ?_, ?_⟩
    · intro entry _
      rw [hr.nodup_validatorIdents.count]
      exact if_congr hr.validatorIdents_iff rfl rfl
    · exact fun names => ⟨keys names, fun entry _ => hr.count_validatorRow (keys names) entry.ident⟩
    · intro entry hm
      obtain ⟨start, item, hmem, hitem⟩ := hr.emits.exists_item (mem_sortedEntries.mpr hm)
      exact ⟨item, hmem, hitem.ident, hitem.dispatches⟩
    · exact fun item hm ident place hc => hr.dispatched_mem hm hc
  · intro validated current cursor optional next node ignorable checks h
    exact EmissionContext.Emits.constrained ⟨h, rfl⟩

theorem exists_render_ring : ∃ text, ringTable.render .typescript "schema" = .ok text := by
  have validated : ringTable.validatedTypes true = .ok ["Text", "List"] := by cbv
  refine exists_render validated ?_ "schema"
  intro entry hm
  simp only [ringTable, List.mem_cons, List.not_mem_nil, or_false] at hm
  rcases hm with rfl | rfl | rfl <;> exact fun next => ⟨_, by cbv⟩

theorem render_validators_ring : ∃ text, ringTable.render .typescript "schema" = .ok text ∧
    ∃ rows, Target.typescript.HasRows text rows ∧
      rows.count (Target.typescript.validatorRow "List") = 1 ∧
      rows.count (Target.typescript.validatorRow "Ring") = 0 := by
  obtain ⟨text, rendered⟩ := exists_render_ring
  obtain ⟨validated, items, file, rows, hr, placed, -, counts, -⟩ :=
    (render_validators ringTable .typescript "schema").1 text rendered
  have found : ringTable.validatedTypes true = .ok ["Text", "List"] := by cbv
  cases Except.ok.inj (found.symm.trans hr.validated_eq)
  obtain ⟨-, counts⟩ := counts (.inl rfl)
  have ring := counts ⟨"ring", ["ring"], .object [("next", .reference "#/definitions/ring")] none,
    "Ring"⟩ (by simp [ringTable])
  have list := counts ⟨"list", ["list"], .object [("next", .reference "#/definitions/list"),
    ("value", .array (some (.reference "#/$defs/text")) false {})] none, "List"⟩
    (by simp [ringTable])
  exact ⟨text, rendered, rows, placed, list, ring⟩

end TypeTable

end CheckedTypes
