import CheckedTypes.Proofs.DroppedRun

namespace CheckedTypes

/-- Whatever else runs validators, they do not notice that a member is dropped that is null and need
not be there, and neither does the check of instances. The exception is a member whose type is
a reference to an array or an object with a validator: the check of instances does not notice it
either, but the validator is called for the null and refuses it, which it does not do for the
missing member. -/
theorem SchemaDocument.null_member_dropped {document : SchemaDocument} {options : GenerateOptions}
    {text : String} {table : TypeTable} (lowered : document.toTypeTable options.root = .ok table)
    (generated : document.generate .typescript options = .ok text) :
    ∃ validated items file,
      table.Renders .typescript options.modulePath text validated items file ∧
      ∀ entry ∈ table.entries, ∀ name gone value rest,
        table.Drops name gone entry.node value rest →
        (∀ typeName, table.lookup? typeName = some entry →
          table.check typeName value = table.check typeName rest) ∧
        ∀ engine : Engine, engine.inherited name = none →
          (¬table.RefusesNull validated gone → ∀ᶠ depth in Filter.atTop,
            engine.runValidator items depth entry.ident value =
              engine.runValidator items depth entry.ident rest) ∧
          (table.RefusesNull validated gone → ∀ᶠ depth in Filter.atTop,
            engine.runValidator items depth entry.ident value ≠ .ok ()) := by
  have rendered : table.render .typescript options.modulePath = .ok text := by
    rw [generate, lowered] at generated
    exact generated
  obtain ⟨validated, items, file, hr⟩ := TypeTable.renders_of_render rendered
  refine ⟨validated, items, file, hr, fun entry hm name gone value rest hd =>
    ⟨fun typeName known => ?_, fun engine bare => ⟨fun tolerated => ?_, fun refused => ?_⟩⟩⟩
  · rw [TypeTable.check, TypeTable.check, known]
    exact hd.checkValue_eq []
  · refine hr.relates_runValidator keptByRuns_eq bare (fun other called => ?_) (fun _ => rfl) hm hd
    obtain ⟨pointer, same, resolved, checked⟩ := called
    obtain ⟨target, ends⟩ := hr.exists_endsAt (TypeTable.resolve_mem resolved) checked
    have simple : target.isComposite = false := by
      by_contra composite
      exact tolerated
        ⟨other, target, ⟨pointer, same, resolved, checked⟩, ends, by simpa using composite⟩
    exact (hr.runValidator_null (TypeTable.resolve_mem resolved) checked ends engine).2 simple
  · obtain ⟨other, target, ⟨pointer, same, resolved, checked⟩, ends, composite⟩ := refused
    refine hr.relates_runValidator keptByRuns_ne_ok bare (fun another called' => ?_)
      (fun uncalled => absurd ⟨pointer, same, resolved, checked⟩ (uncalled other)) hm hd
    obtain ⟨_, same', resolved', -⟩ := called'
    cases same.symm.trans same'
    cases Except.ok.inj (resolved.symm.trans resolved')
    exact .of_forall
      ((hr.runValidator_null (TypeTable.resolve_mem resolved) checked ends engine).1 composite)

/-- A post that may have tags, of which there is at least one, and a note. -/
def postDocument : SchemaDocument where
  definitions := some [
    ("post", {
      properties := some [
        ("tags", { ref := some "#/definitions/tags" }),
        ("note", { typeNames := some (.one "string"), string := { minLength := some 1 } })] }),
    ("tags", {
      typeNames := some (.one "array")
      items := some (.single { typeNames := some (.one "string") })
      array := { minItems := some 1 } })]

example : (postDocument.toTypeTable none).map (·.check "post" (.object [("tags", .null)])) =
    (postDocument.toTypeTable none).map (·.check "post" (.object [])) := by
  cbv

def postTable : TypeTable where
  entries := [
    ⟨"post", ["post"], .object [("tags", .reference "#/definitions/tags"),
      ("note", .string { minLength := some 1 })] none, "Post"⟩,
    ⟨"tags", ["tags"], .array (some (.string {})) false { minItems := some 1 }, "Tags"⟩]
  nodup_name := by decide
  nodup_ident := by decide

theorem postDocument_toTypeTable : postDocument.toTypeTable none = .ok postTable := by
  cbv

theorem postTable_validatedTypes :
    postTable.validatedTypes Target.typescript.dispatches = .ok ["Post", "Tags"] := by
  cbv

theorem exists_generate_post : ∃ text, postDocument.generate .typescript {} = .ok text := by
  have rendered := TypeTable.exists_render postTable_validatedTypes (fun entry hm => by
    simp only [postTable, List.mem_cons, List.not_mem_nil, or_false] at hm
    rcases hm with rfl | rfl <;> exact fun next => ⟨_, by cbv⟩) "schema"
  simpa only [SchemaDocument.generate, postDocument_toTypeTable] using rendered

/-- A post without a note passes where one with a null for it does, but one with a null for tags
never does. -/
theorem null_member_dropped_post : ∃ text, postDocument.generate .typescript {} = .ok text ∧
    ∃ validated items file,
      postTable.Renders .typescript "schema" text validated items file ∧
      postTable.check "post" (.object [("tags", .null)]) =
        postTable.check "post" (.object []) ∧
      (∀ᶠ depth in Filter.atTop,
        runValidator items depth "Post" (.object [("note", .null)]) =
          runValidator items depth "Post" (.object [])) ∧
      ∀ᶠ depth in Filter.atTop,
        runValidator items depth "Post" (.object [("tags", .null)]) ≠ .ok () := by
  obtain ⟨text, generated⟩ := exists_generate_post
  obtain ⟨validated, items, file, hr, same⟩ := SchemaDocument.null_member_dropped
    postDocument_toTypeTable generated
  refine ⟨text, generated, validated, items, file, hr, ?_⟩
  have post : (⟨"post", ["post"], .object [("tags", .reference "#/definitions/tags"),
      ("note", .string { minLength := some 1 })] none, "Post"⟩ : TypeEntry) ∈
      postTable.entries := by simp [postTable]
  have known : postTable.lookup? "post" = some ⟨"post", ["post"], .object [
      ("tags", .reference "#/definitions/tags"), ("note", .string { minLength := some 1 })] none,
      "Post"⟩ := by cbv
  have resolved : postTable.resolve "#/definitions/tags" = .ok ⟨"tags", ["tags"],
      .array (some (.string {})) false { minItems := some 1 }, "Tags"⟩ := by cbv
  have checked : "Tags" ∈ validated := by
    cases Except.ok.inj (postTable_validatedTypes.symm.trans hr.validated_eq)
    simp
  obtain ⟨checks, runs⟩ := same _ post "tags" _ (.object [("tags", .null)]) (.object [])
    (.here rfl (by simp) rfl)
  obtain ⟨-, runs'⟩ := same _ post "note" _ (.object [("note", .null)]) (.object [])
    (.here rfl (by simp) rfl)
  refine ⟨checks "post" known, ?_, ?_⟩
  · have tolerated : ¬postTable.RefusesNull validated (.string { minLength := some 1 }) := by
      rintro ⟨_, _, ⟨_, same, _⟩, _⟩
      cases same
    have lenient := (runs' Engine.strict rfl).1 tolerated
    simpa only [Engine.strict_runValidator] using lenient
  · have refused := (runs Engine.strict rfl).2
      ⟨_, _, ⟨_, rfl, resolved, checked⟩, .here rfl, rfl⟩
    simpa only [Engine.strict_runValidator] using refused

section

variable {modulePath text : String} {validated : List String} {items : List FileItem}
  {file : FileParts}
  (h : postTable.Renders .typescript modulePath text validated items file)
include h

theorem run_tags_null (depth : Nat) :
    runValidator items (depth + 1) "Tags" .null = .error (.thrown .arrayPresent []) := by
  cases Except.ok.inj (postTable_validatedTypes.symm.trans h.validated_eq)
  have member : (⟨"tags", ["tags"], .array (some (.string {})) false { minItems := some 1 },
      "Tags"⟩ : TypeEntry) ∈ postTable.entries := by simp [postTable]
  rcases h.runValidator_succ member (by simp) with ⟨_, hn, -⟩ | ⟨start, checks, used, he, run⟩
  · cases hn
  · obtain ⟨-, a, elements, -, -, rfl⟩ := he.array
    rw [← Engine.strict_runValidator, run]
    rfl

theorem run_post (depth : Nat) (value : Json) :
    runValidator items (depth + 1) "Post" value =
      Statement.runAll (runValidator items depth) (items.flatMap FileItem.patterns)
        { main := value } [.splice [
          .failUnless (.length { minLength := some 1 } (FileParts.root.field "note") true)
            .stringLength (FileParts.root.field "note"),
          .dispatch "Tags" (FileParts.root.field "tags")]] := by
  cases Except.ok.inj (postTable_validatedTypes.symm.trans h.validated_eq)
  have member : (⟨"post", ["post"], .object [("tags", .reference "#/definitions/tags"),
      ("note", .string { minLength := some 1 })] none, "Post"⟩ : TypeEntry) ∈
      postTable.entries := by simp [postTable]
  rcases h.runValidator_succ member (by simp) with ⟨_, hn, -⟩ | ⟨start, checks, used, he, run⟩
  · cases hn
  · have outcome := he.outcome
    cbv at outcome
    obtain ⟨-, rfl⟩ := Prod.mk.inj (Except.ok.inj outcome)
    rw [← Engine.strict_runValidator, run, Engine.strict_executeAll, Engine.strict_runValidator]
    rfl

end

/-- A post with a null for tags and one without tags pass the check of instances, but the validator
throws for the first. -/
theorem null_tags_thrown_post : ∃ text, postDocument.generate .typescript {} = .ok text ∧
    ∃ validated items file,
      postTable.Renders .typescript "schema" text validated items file ∧
      postTable.check "post" (.object [("tags", .null)]) = .ok () ∧
      postTable.check "post" (.object []) = .ok () ∧
      Throws items "Post" (.object [("tags", .null)]) .arrayPresent [] ∧
      Completes items "Post" (.object []) := by
  obtain ⟨text, generated⟩ := exists_generate_post
  have rendered : postTable.render .typescript "schema" = .ok text := by
    rw [SchemaDocument.generate, postDocument_toTypeTable] at generated
    exact generated
  obtain ⟨validated, items, file, hr⟩ := TypeTable.renders_of_render rendered
  refine ⟨text, generated, validated, items, file, hr, by cbv, by cbv, ⟨2, ?_⟩, ⟨1, ?_⟩⟩
  · have called := run_tags_null hr 0
    rw [run_post hr]
    change ((runValidator items 1 "Tags" .null).andThen (.ok ())).andThen (.ok ()) = _
    rw [called]
    rfl
  · rw [run_post hr]
    rfl

end CheckedTypes
