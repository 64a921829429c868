import CheckedTypes.Proofs.DocumentPart
import CheckedTypes.Proofs.Simulation
import Mathlib

namespace CheckedTypes

namespace EmissionContext

variable {context : EmissionContext} {cursor : Cursor} {optional : Bool} {next : Nat}
  {ignorable : Bool} {checks : List Statement} {patterns : List String}

/-- The patterns that a type adds to the file are those of its strings. -/
theorem Emits.meaningful {node : TypeNode}
    (h : context.Emits cursor optional next node ignorable checks patterns)
    (hn : node.Meaningful) : ∀ pattern ∈ patterns, (Regex.ofText? pattern).isSome := by
  induction node generalizing cursor optional next ignorable checks patterns with
  | null => simp [h.null.2.2]
  | boolean => simp [h.boolean.2.2]
  | integer => simp [h.integer.2.1]
  | number => simp [h.number.2.1]
  | string constraints =>
    rw [h.string.2.1]
    intro pattern hp
    exact hn constraints pattern .here (Option.mem_toList.mp hp)
  | bareArray => exact absurd h not_emits_bareArray
  | array items additionalItems constraints ih =>
    obtain ⟨-, a, elements, hi, -, -⟩ := h.array
    exact ih hi fun other pattern hw => hn other pattern (.items hw)
  | object properties required ih =>
    obtain ⟨-, a, members, hm, -, -⟩ := h.object
    have perm := sortByName_perm properties
    refine hm.closed (P := fun _ _ patterns => ∀ pattern ∈ patterns,
        (Regex.ofText? pattern).isSome) (by simp)
      (fun first more => List.forall_mem_append.mpr ⟨first, more⟩) fun name node hp _ _ _ _ he => ?_
    exact ih name node (perm.subset hp) he fun other pattern hw =>
      hn other pattern (.property (perm.subset hp) hw)
  | enumeration => exact absurd h not_emits_enumeration
  | reference =>
    obtain ⟨entry, -, rfl, -⟩ := h.reference
    simp

end EmissionContext

namespace TypeTable

variable {table : TypeTable} {modulePath text : String} {validated : List String}
  {items : List FileItem} {file : FileParts}

theorem Renders.meaningful {target : Target}
    (h : table.Renders target modulePath text validated items file)
    (hn : ∀ entry ∈ table.entries, entry.node.Meaningful) :
    ∀ pattern ∈ items.flatMap FileItem.patterns, (Regex.ofText? pattern).isSome := by
  intro pattern hp
  obtain ⟨item, hi, hp⟩ := List.mem_flatMap.mp hp
  obtain ⟨start, entry, hm, he⟩ := h.emits.exists_entry hi
  cases he with
  | enumeration => cases hp
  | type _ he => exact he.meaningful (hn entry (mem_sortedEntries.mp hm)) pattern hp

end TypeTable

/-- A run that agrees at some depth decides how the validator ends. -/
theorem Agrees.decides {items : List FileItem} {ident : String} {value : Json}
    {result : CheckResult} {depth : Nat}
    (h : Agrees result (runValidator items depth ident value)) :
    (∀ reason path, Throws items ident value reason path ↔
      result = .error (.violation reason path)) ∧
    (Completes items ident value ↔ result = .ok ()) := by
  generalize hr : runValidator items depth ident value = run at h
  have ended : run ≠ .error .unfinished := by cases h <;> simp
  -- a run at another depth that ends differently would differ from itself at the larger of the two
  have same : ∀ other, runValidator items other ident value ≠ .error .unfinished →
      runValidator items other ident value = run := by
    intro other ho
    have here := runValidator_extends items (le_max_left depth other) ident value (by rwa [hr])
    have there := runValidator_extends items (le_max_right depth other) ident value ho
    rw [← there, here, hr]
  have ends : ∀ outcome : RunResult, outcome ≠ .error .unfinished →
      ((∃ other, runValidator items other ident value = outcome) ↔ run = outcome) := by
    intro outcome hne
    constructor
    · rintro ⟨other, rfl⟩
      exact (same other hne).symm
    · rintro rfl
      exact ⟨depth, hr⟩
  constructor
  · intro reason path
    rw [Throws, ends _ (by simp)]
    cases h <;> simp
  · rw [Completes, ends _ (by simp)]
    cases h <;> simp

theorem Agrees.ok_or_violation {result : CheckResult} {run : RunResult} (h : Agrees result run) :
    result = .ok () ∨ ∃ reason path, result = .error (.violation reason path) := by
  cases h with
  | passes => exact .inl rfl
  | fails => exact .inr ⟨_, _, rfl⟩

/-- The validators of a generated TypeScript file do what checking an instance does. On a value
whose parts are of the right kinds a validator throws exactly the reason and the path that the check
reports, it lets the value pass exactly if the check does, and it always does one of the two. -/
theorem SchemaDocument.validators_simulate_check {document : SchemaDocument}
    {options : GenerateOptions} {text : String} {table : TypeTable}
    (lowered : document.toTypeTable options.root = .ok table)
    (generated : document.generate .typescript options = .ok text)
    (acyclic : table.ReferencesEnd) :
    ∃ validated items file,
      table.Renders .typescript options.modulePath text validated items file ∧
      ∀ entry ∈ table.entries, ∀ value, table.Fits entry.node value →
        (∀ reason path, Throws items entry.ident value reason path ↔
          table.check entry.name value = .error (.violation reason path)) ∧
        (Completes items entry.ident value ↔ table.check entry.name value = .ok ()) ∧
        (table.check entry.name value = .ok () ∨
          ∃ reason path, table.check entry.name value = .error (.violation reason path)) := by
  have rendered : table.render .typescript options.modulePath = .ok text := by
    rw [generate, lowered] at generated
    exact generated
  obtain ⟨validated, items, file, hr⟩ := TypeTable.renders_of_render rendered
  refine ⟨validated, items, file, hr, fun entry hm value hf => ?_⟩
  have meaningful := hr.meaningful fun entry hm => meaningful_toTypeTable lowered hm
  have agrees := hr.agrees_runValidator acyclic hm hf (hr.simulates meaningful acyclic hf)
  obtain ⟨depth, agrees⟩ := agrees.exists
  have checked : table.check entry.name value = checkValue table entry.node [] value := by
    rw [TypeTable.check, TypeTable.lookup?_name hm]
  rw [checked]
  exact ⟨agrees.decides.1, agrees.decides.2, agrees.ok_or_violation⟩

/-- A queue with a label at its head, which may have counts and more of the queue behind it. -/
def queueDocument : SchemaDocument where
  definitions := some [
    ("label", {
      typeNames := some (.one "string")
      string := { minLength := some 1, pattern := some "b" } }),
    ("queue", {
      typeNames := some (.one "object")
      required := some ["head"]
      properties := some [
        ("head", { ref := some "#/definitions/label" }),
        ("counts", {
          typeNames := some (.one "array")
          items := some (.single { typeNames := some (.one "integer") })
          array := { minItems := some 1 } }),
        ("tail", { ref := some "#/definitions/queue" })] })]

def queueTable : TypeTable where
  entries := [
    ⟨"label", ["label"], .string { minLength := some 1, pattern := some "b" }, "Label"⟩,
    ⟨"queue", ["queue"], .object [("head", .reference "#/definitions/label"),
      ("counts", .array (some (.integer ⟨none, none, none⟩)) false { minItems := some 1 }),
      ("tail", .reference "#/definitions/queue")] (some ["head"]), "Queue"⟩]
  nodup_name := by decide
  nodup_ident := by decide

theorem queueDocument_toTypeTable : queueDocument.toTypeTable none = .ok queueTable := by
  cbv

theorem queueTable_referencesEnd : queueTable.ReferencesEnd := by
  refine .of_direct fun entry hm other h => ?_
  obtain ⟨pointer, hp, -⟩ := h
  simp only [queueTable, List.mem_cons, List.not_mem_nil, or_false] at hm
  rcases hm with rfl | rfl <;> cases hp

theorem exists_generate_queue : ∃ text, queueDocument.generate .typescript {} = .ok text := by
  have validated : queueTable.validatedTypes Target.typescript.dispatches =
      .ok ["Label", "Queue"] := by cbv
  have rendered := TypeTable.exists_render validated (fun entry hm => by
    simp only [queueTable, List.mem_cons, List.not_mem_nil, or_false] at hm
    rcases hm with rfl | rfl <;> exact fun next => ⟨_, by cbv⟩) "schema"
  simpa only [SchemaDocument.generate, queueDocument_toTypeTable] using rendered

/-- A label that is too short is refused at the place where it is referred to, with a path that
starts there; counts that are null are not looked at. -/
theorem validators_simulate_check_queue : ∃ text,
    queueDocument.generate .typescript {} = .ok text ∧ ∃ validated items file,
      queueTable.Renders .typescript "schema" text validated items file ∧
      Throws items "Queue" (.object [("head", .string ""), ("counts", .null)]) .stringLength
        [] := by
  obtain ⟨text, generated⟩ := exists_generate_queue
  obtain ⟨validated, items, file, hr, same⟩ := SchemaDocument.validators_simulate_check
    queueDocument_toTypeTable generated queueTable_referencesEnd
  refine ⟨text, generated, validated, items, file, hr, ?_⟩
  have fits : queueTable.Fits (.object [("head", .reference "#/definitions/label"),
      ("counts", .array (some (.integer ⟨none, none, none⟩)) false { minItems := some 1 }),
      ("tail", .reference "#/definitions/queue")] (some ["head"]))
      (.object [("head", .string ""), ("counts", .null)]) := by
    refine .object fun name node value hn hv needed => ?_
    obtain ⟨before, after, hm, -⟩ := List.lookup_eq_some_iff.mp hv
    have member : (name, value) ∈ [("head", Json.string ""), ("counts", .null)] := by simp [hm]
    simp only [List.mem_cons, List.not_mem_nil, or_false, Prod.mk.injEq] at member
    rcases member with ⟨rfl, rfl⟩ | ⟨rfl, rfl⟩
    · cases hn
      have target : queueTable.resolve "#/definitions/label" = .ok ⟨"label", ["label"],
        .string { minLength := some 1, pattern := some "b" }, "Label"⟩ := by cbv
      exact .reference target .string
    · cases hn
      exact absurd ⟨rfl, by simp, rfl⟩ needed
  have entry : (⟨"queue", ["queue"], .object [("head", .reference "#/definitions/label"),
      ("counts", .array (some (.integer ⟨none, none, none⟩)) false { minItems := some 1 }),
      ("tail", .reference "#/definitions/queue")] (some ["head"]), "Queue"⟩ : TypeEntry) ∈
      queueTable.entries := by simp [queueTable]
  exact ((same _ entry _ fits).1 .stringLength []).mpr (by cbv)

end CheckedTypes
