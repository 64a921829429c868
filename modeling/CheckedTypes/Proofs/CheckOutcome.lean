import CheckedTypes.Proofs.CheckFault
import CheckedTypes.Proofs.DocumentPart

namespace CheckedTypes

namespace TypeTable

variable {table : TypeTable} {entry : TypeEntry} {typeName : String} {value : Json}

/-- A name and an identifier both lead to a type, though it may not be the same one. -/
theorem exists_lookup? (hm : entry ∈ table.entries)
    (named : typeName = entry.name ∨ typeName = entry.ident) :
    ∃ other ∈ table.entries, table.lookup? typeName = some other := by
  cases hg : table.get? typeName with
  | some other => exact ⟨other, get?_mem hg, by simp [lookup?, hg]⟩
  | none =>
    rcases named with rfl | rfl
    · exact absurd (List.mem_map_of_mem hm) (not_mem_name hg)
    · exact ⟨entry, hm, by simp [lookup?, hg, getIdent?, find?_of_nodup table.nodup_ident hm]⟩

/-- What is wrong with a value is the value's fault where the types are well formed and their
patterns mean something. -/
theorem exists_violation (h : table.WellFormed) (acyclic : table.ReferencesEnd)
    (meaningful : ∀ entry ∈ table.entries, entry.node.Meaningful) (hm : entry ∈ table.entries)
    (known : table.lookup? typeName = some entry) {fault : CheckError}
    (hf : table.check typeName value = .error fault) :
    ∃ part reason path, table.Involves entry part ∧ part.Raises (.violation reason path) ∧
      fault = .violation reason path := by
  obtain ⟨part, involved, raised⟩ := h.exists_raises acyclic hm known hf
  have ⟨other, chain, inside⟩ := involved
  have ho := Refers.mem chain hm
  cases raised with
  | bareArray =>
    have items : (none : Option TypeNode).isSome := (h.supported ho inside rfl).1
    simp at items
  | pattern hp meaningless =>
    have means := meaningful other ho _ _ inside hp
    simp [meaningless] at means
  | kind hk => exact ⟨part, _, _, involved, .kind hk, rfl⟩
  | absent => exact ⟨_, _, _, involved, .absent, rfl⟩
  | constraint hc hr => exact ⟨part, _, _, involved, .constraint hc hr, rfl⟩
  | enumeration => exact ⟨_, _, _, involved, .enumeration, rfl⟩

/-- No constraint stands anywhere in the types involved with one that has no validator. -/
theorem not_isChecked_of_involves {validated : List String}
    (searched : table.validatedTypes true = .ok validated) (hm : entry ∈ table.entries)
    (unvalidated : entry.ident ∉ validated) {other : TypeEntry}
    (chain : Relation.ReflTransGen table.Refers entry other) : ¬IsChecked other := by
  intro checked
  have closes := table.closes_validatedTypes true
  rw [searched] at closes
  refine unvalidated ((closes.mem_iff table.sortedEntries_perm).mpr ⟨entry, hm, rfl, ?_⟩)
  simpa [LeadsToCheck] using ⟨other, chain, checked⟩

end TypeTable

namespace SchemaDocument

variable {document : SchemaDocument} {target : Target} {options : GenerateOptions} {text : String}
  {table : TypeTable}

theorem wellFormed_of_generate (lowered : document.toTypeTable options.root = .ok table)
    (generated : document.generate target options = .ok text) : table.WellFormed := by
  obtain ⟨other, ht, hr⟩ := generate_eq_ok_iff.mp generated
  cases Except.ok.inj (lowered.symm.trans ht)
  exact TypeTable.exists_render_iff.mp ⟨text, hr⟩

theorem exists_generate (lowered : document.toTypeTable options.root = .ok table)
    (wellFormed : table.WellFormed) (target : Target) :
    ∃ text, document.generate target options = .ok text := by
  obtain ⟨text, hr⟩ := (@TypeTable.exists_render_iff table target options.modulePath).mpr wellFormed
  exact ⟨text, generate_eq_ok_iff.mpr ⟨table, lowered, hr⟩⟩

/-- Every type of a schema that can be generated can be checked: a value passes or violates its
type, whichever name is asked for. -/
theorem generated_checkable (lowered : document.toTypeTable options.root = .ok table)
    (generated : document.generate target options = .ok text) (acyclic : table.ReferencesEnd)
    {entry : TypeEntry} (hm : entry ∈ table.entries) {typeName : String}
    (named : typeName = entry.name ∨ typeName = entry.ident) (value : Json) :
    table.check typeName value = .ok () ∨
      ∃ reason path, table.check typeName value = .error (.violation reason path) := by
  obtain ⟨other, ho, known⟩ := TypeTable.exists_lookup? hm named
  cases hc : table.check typeName value with
  | ok => exact .inl rfl
  | error fault =>
    obtain ⟨_, reason, path, -, -, rfl⟩ := TypeTable.exists_violation
      (wellFormed_of_generate lowered generated) acyclic
      (fun _ => meaningful_toTypeTable lowered) ho known hc
    exact .inr ⟨reason, path, rfl⟩

theorem boxTable_referencesEnd : boxTable.ReferencesEnd := by
  refine .of_direct fun entry hm other h => ?_
  obtain ⟨pointer, hp, -⟩ := h
  fin_cases hm <;> cases hp

/-- A box in which another has a kind that there is not. -/
theorem generated_checkable_box : ∃ text,
    boxDocument.generate .go { root := some "box" } = .ok text ∧
      ∃ reason path, boxTable.check "Box" (.object
        [("inner", .list [.object [("kind", .string "lost")]])]) =
          .error (.violation reason path) := by
  have flat : boxDocument.toTypeTable ({ root := some "box" } : GenerateOptions).root =
      .ok boxTable := by cbv
  obtain ⟨text, generated⟩ := exists_generate flat boxTable_wellFormed .go
  refine ⟨text, generated, ?_⟩
  have entry : (⟨"box", [], .object [("kind", .reference "#/$defs/kind"),
      ("inner", .array (some (.reference "#")) false {})] none, "Box"⟩ : TypeEntry) ∈
      boxTable.entries := by simp [boxTable]
  refine (generated_checkable flat generated boxTable_referencesEnd entry (.inr rfl) _).resolve_left
    fun passes => ?_
  have refused : boxTable.check "Box" (.object
      [("inner", .list [.object [("kind", .string "lost")]])]) =
        .error (.violation .enumeration []) := by cbv
  cases refused.symm.trans passes

/-- A type without a validator has nothing to validate: a value that does not pass is, or holds, a
value of the wrong kind or a null in place of an array. -/
theorem unvalidated_unconstrained (lowered : document.toTypeTable options.root = .ok table)
    (generated : document.generate .typescript options = .ok text) (acyclic : table.ReferencesEnd)
    {validated : List String} (searched : table.validatedTypes true = .ok validated)
    {entry : TypeEntry} (hm : entry ∈ table.entries) (unvalidated : entry.ident ∉ validated)
    {typeName : String} (known : table.lookup? typeName = some entry) (value : Json) :
    table.check typeName value = .ok () ∨
      ∃ reason path, table.check typeName value = .error (.violation reason path) ∧
        (reason = .arrayPresent ∨ ∃ kind, reason = .expected kind) := by
  cases hc : table.check typeName value with
  | ok => exact .inl rfl
  | error fault =>
    obtain ⟨part, reason, path, ⟨other, chain, inside⟩, raised, rfl⟩ := TypeTable.exists_violation
      (wellFormed_of_generate lowered generated) acyclic
      (fun _ => meaningful_toTypeTable lowered) hm known hc
    have unchecked := TypeTable.not_isChecked_of_involves searched hm unvalidated chain
    refine .inr ⟨reason, path, rfl, ?_⟩
    cases raised with
    | kind => exact .inr ⟨_, rfl⟩
    | absent => exact .inl rfl
    | constraint restricts => exact absurd (.inr ⟨part, inside, restricts⟩) unchecked
    | enumeration =>
      have plain : other.node.isEnumeration = false := by simpa using mt Or.inl unchecked
      have wellFormed := wellFormed_of_generate lowered generated
      exact absurd (wellFormed.types other (TypeTable.Refers.mem chain hm) plain _ inside)
        (by simp [TypeNode.Supported])

/-- A loop that an alias leads back to, with marks in rows, and a title that it does not use. -/
def loopDocument : SchemaDocument where
  definitions := some [
    ("loop", {
      properties := some [
        ("rows", {
          typeNames := some (.one "array")
          items := some (.single {
            typeNames := some (.one "array")
            items := some (.single { typeNames := some (.one "boolean") }) }) }),
        ("next", { ref := some "#/$defs/alias" })] })]
  defs := some [
    ("alias", { ref := some "#/definitions/loop" }),
    ("title", { typeNames := some (.one "string"), string := { minLength := some 1 } })]

def loopTable : TypeTable where
  entries := [
    ⟨"loop", ["loop"], .object [
      ("rows", .array (some (.array (some .boolean) false {})) false {}),
      ("next", .reference "#/$defs/alias")] none, "Loop"⟩,
    ⟨"alias", ["alias"], .reference "#/definitions/loop", "Alias"⟩,
    ⟨"title", ["title"], .string { minLength := some 1 }, "Title"⟩]
  nodup_name := by decide
  nodup_ident := by decide

theorem loopTable_wellFormed : loopTable.WellFormed := by
  constructor
  · intro entry hm values hn
    fin_cases hm <;> cases hn
  · intro entry hm _
    fin_cases hm
    · refine TypeNode.wellFormed_object.mpr ⟨by decide, fun name node hp => ?_⟩
      fin_cases hp
      · refine TypeNode.wellFormed_array.mpr ⟨rfl, TypeNode.wellFormed_array.mpr ⟨rfl, ?_⟩⟩
        rintro part ⟨⟩
        trivial
      · exact TypeNode.wellFormed_reference.mpr ⟨_, by cbv⟩
    · exact TypeNode.wellFormed_reference.mpr ⟨_, by cbv⟩
    · rintro part ⟨⟩
      trivial

theorem loopTable_referencesEnd : loopTable.ReferencesEnd := by
  obtain ⟨loop, hloop, last⟩ : ∃ entry, loopTable.resolve "#/definitions/loop" = .ok entry ∧
      entry.node.isReference = false := ⟨_, by cbv, rfl⟩
  refine .of_direct fun entry hm other h => ?_
  obtain ⟨pointer, hp, hother⟩ := h
  fin_cases hm
  · cases hp
  · cases hp
    cases Except.ok.inj (hloop.symm.trans hother)
    exact last
  · cases hp

/-- A null among the rows of the next loop. -/
theorem unvalidated_unconstrained_loop : loopTable.validatedTypes true = .ok ["Title"] ∧
    ∃ reason path, loopTable.check "alias" (.object
        [("next", .object [("rows", .list [.null])])]) = .error (.violation reason path) ∧
      (reason = .arrayPresent ∨ ∃ kind, reason = .expected kind) := by
  have flat : loopDocument.toTypeTable ({} : GenerateOptions).root = .ok loopTable := by cbv
  obtain ⟨text, generated⟩ := exists_generate flat loopTable_wellFormed .typescript
  have searched : loopTable.validatedTypes true = .ok ["Title"] := by cbv
  have known : loopTable.lookup? "alias" =
      some ⟨"alias", ["alias"], .reference "#/definitions/loop", "Alias"⟩ := by cbv
  refine ⟨searched, (unvalidated_unconstrained flat generated loopTable_referencesEnd searched
    (by simp [loopTable]) (by decide) known _).resolve_left
      fun passes => ?_⟩
  have refused : loopTable.check "alias" (.object [("next", .object [("rows", .list [.null])])]) =
      .error (.violation .arrayPresent [.key "rows", .index 0]) := by cbv
  cases refused.symm.trans passes

end SchemaDocument

end CheckedTypes
