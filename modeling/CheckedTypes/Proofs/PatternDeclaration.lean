import CheckedTypes.Proofs.DeclarationBlock
import CheckedTypes.Proofs.PatternPlace

namespace CheckedTypes

/-- The line that declares a pattern under its number. -/
def Target.patternLine (target : Target) (index : Nat) (pattern : String) : List Char :=
  (target.patternDeclaration (patternVariable index) pattern).toList

theorem Target.newline_not_mem_patternLine (target : Target) (index : Nat) (pattern : String) :
    '\n' ∉ target.patternLine index pattern := by
  unfold patternLine patternDeclaration
  cases target <;>
    simp [newline_not_mem_patternVariable, newline_not_mem_quote]

theorem Target.trimmedLine_patternLine (target : Target) (index : Nat) (pattern : String) :
    trimmedLine (target.patternLine index pattern) = target.patternLine index pattern := by
  obtain ⟨c, ends, hc⟩ : ∃ c, (target.patternLine index pattern).getLast? = some c ∧ c ≠ '\r' := by
    unfold patternLine patternDeclaration
    cases target with
    | go => exact ⟨')', by simp only [String.toList_append, List.getLast?_append]; rfl, by decide⟩
    | typescript =>
      exact ⟨';', by simp only [String.toList_append, List.getLast?_append]; rfl, by decide⟩
  obtain ⟨line, he⟩ := List.getLast?_eq_some_iff.mp ends
  rw [he, trimmedLine_append_singleton hc]

/-- The lines that declare patterns, numbered from `next` on. -/
def Target.patternLines (target : Target) (next : Nat) (patterns : List String) :
    List (List Char) :=
  numbered next target.patternLine patterns

theorem Target.map_trimmedLine_patternLines (target : Target) (next : Nat)
    (patterns : List String) :
    (target.patternLines next patterns).map trimmedLine = target.patternLines next patterns := by
  simp only [patternLines, map_numbered, trimmedLine_patternLine]

open CodeWriter

namespace FileParts

theorem addPatterns_globals {file : FileParts} {lines : List (List Char)}
    (h : file.globals.Shows file.target.tab 0 lines) (next : Nat) (patterns : List String) :
    (file.addPatterns next patterns).globals.Shows file.target.tab 0
      (lines ++ file.target.patternLines next patterns) := by
  induction patterns generalizing file next lines with
  | nil =>
    rw [show file.target.patternLines next [] = [] from rfl, List.append_nil]
    exact h
  | cons pattern rest ih =>
    have declared := h.row (file.target.newline_not_mem_patternLine next pattern)
    rw [indented_zero] at declared
    have numbered : file.target.patternLines next (pattern :: rest) =
        file.target.patternLine next pattern :: file.target.patternLines (next + 1) rest :=
      numbered_append next file.target.patternLine [pattern] rest
    rw [numbered, List.append_cons]
    exact ih declared (next + 1)

theorem addType_globals (file : FileParts) (ident declaration : String)
    (validation : Option String) :
    (file.addType ident declaration validation).globals = file.globals ∧
      (file.addType ident declaration validation).target = file.target := by
  unfold addType
  dsimp only
  split <;> exact ⟨rfl, rfl⟩

theorem addEnum_globals {file result : FileParts} {ident : String} {values : List String}
    (h : file.addEnum ident values = .ok result) :
    result.globals = file.globals ∧ result.target = file.target := by
  obtain ⟨members, -, rfl⟩ := exists_of_map_eq_ok h
  split <;> exact ⟨rfl, rfl⟩

theorem addPatterns_addExport (file : FileParts) (ident : String) (next : Nat)
    (patterns : List String) :
    (file.addExport ident).addPatterns next patterns =
      (file.addPatterns next patterns).addExport ident := by
  induction patterns generalizing file next with
  | nil => rfl
  | cons pattern rest ih =>
    exact ih (file.addGlobal (file.target.patternDeclaration (patternVariable next) pattern))
      (next + 1)

/-- The declarations of patterns stand in the file as they are. -/
theorem assemble_globals (file : FileParts) (modulePath : String) :
    ∃ before after, (file.assemble modulePath).toList =
      before ++ joinLines (textLines file.globals.text.toList) ++ after := by
  unfold assemble
  split
  next =>
    have head := continues_goHead file modulePath
    obtain ⟨before, hb⟩ := writeSection_toList file.globals head.depth_eq
    obtain ⟨after, ha⟩ := (continues_writeSection
      (writeSection (goHead file modulePath) file.globals) file.declarations).begins
    exact ⟨before, after, hb ▸ ha.symm⟩
  next =>
    let head := (((CodeWriter.line { tab := file.target.tab } notice).line
      ("// module: " ++ modulePath)).newline).embed typeScriptSupport
    have start : CodeWriter.Continues { tab := file.target.tab } head :=
      (((continues_line _ notice).trans (continues_line _ ("// module: " ++ modulePath))).trans
        (continues_newline _)).trans (continues_embed _ typeScriptSupport)
    obtain ⟨before, hb⟩ := writeSection_toList file.globals start.depth_eq
    have table := (continues_embed ((typeScriptHead file modulePath).openBlock checkTableHeader)
      file.checks.text).block "\x7d;"
    obtain ⟨after, ha⟩ := ((((continues_writeSection (writeSection head file.globals)
      file.declarations).trans (continues_newline _)).trans table).trans
        (continues_typeScriptFile file modulePath)).begins
    exact ⟨before, after, hb ▸ ha.symm⟩

end FileParts

/-- A draft declares these patterns under the numbers from zero on and nothing else, and it counts
them. -/
structure SourceDraft.Registers (draft : SourceDraft) (target : Target) (patterns : List String) :
    Prop where
  target_eq : draft.file.target = target
  shows : draft.file.globals.Shows target.tab 0 (target.patternLines 0 patterns)
  count : draft.patterns = patterns.length

namespace SourceDraft

variable {draft result : SourceDraft} {target : Target} {patterns : List String}

theorem registers_empty (target : Target) :
    SourceDraft.Registers { file := .empty target } target [] :=
  ⟨rfl, shows_empty target, rfl⟩

theorem Registers.addPatterns (h : draft.Registers target patterns) (more : List String) :
    SourceDraft.Registers
      { file := draft.file.addPatterns draft.patterns more
        patterns := draft.patterns + more.length } target (patterns ++ more) := by
  obtain ⟨rfl, shows, count⟩ := h
  refine ⟨(FileParts.addPatterns_frame _ _ _).1, ?_, ?_⟩
  · have declared := FileParts.addPatterns_globals shows draft.patterns more
    rwa [Target.patternLines, numbered_append, Nat.zero_add, ← count]
  · rw [List.length_append, count]

theorem Registers.addItem (h : draft.Registers target patterns) {item : FileItem}
    (ha : draft.addItem target item = .ok result) :
    result.Registers target (patterns ++ item.patterns) := by
  cases item with
  | enumeration ident values =>
    obtain ⟨file, hf, rfl⟩ := exists_of_map_eq_ok ha
    obtain ⟨globals, same⟩ := FileParts.addEnum_globals hf
    rw [FileItem.patterns, List.append_nil]
    exact ⟨same.trans h.target_eq, globals ▸ h.shows, h.count⟩
  | type ident declaration more checks =>
    cases Except.ok.inj ha
    have added := h.addPatterns more
    obtain ⟨globals, same⟩ := ((draft.file.addExport ident).addPatterns draft.patterns
      more).addType_globals ident declaration (checks.map (validatorText target))
    rw [FileParts.addPatterns_addExport] at globals same
    refine ⟨?_, ?_, added.count⟩
    · rw [FileParts.addPatterns_addExport]
      exact same.trans added.target_eq
    · rw [FileParts.addPatterns_addExport]
      exact globals ▸ added.shows

theorem Registers.addItems {items : List FileItem} (h : draft.Registers target patterns)
    (ha : draft.addItems target items = .ok result) :
    result.Registers target (patterns ++ items.flatMap FileItem.patterns) := by
  induction items generalizing draft patterns with
  | nil =>
    cases Except.ok.inj ha
    rwa [List.flatMap_nil, List.append_nil]
  | cons item rest ih =>
    rw [SourceDraft.addItems] at ha
    split at ha
    next => cases ha
    next between hb =>
      rw [List.flatMap_cons, ← List.append_assoc]
      exact ih (h.addItem hb) ha

end SourceDraft

/-- A call of the emitter: with a whole type under its name, or with a type at some place. -/
inductive EmitCall where
  | root (name : String) (node : TypeNode)
  | part (place : TypePlace)

namespace EmitCall

def place : EmitCall → TypePlace
  | root _ node => ⟨FileParts.root, false, node⟩
  | part place => place

/-- The patterns of the strings that the emitter visits before it ends or fails. -/
def visitedPatterns (call : EmitCall) (table : TypeTable) : List String :=
  (visitedPlaces table (call.place.node.sorted.places call.place.cursor
    call.place.optional)).filterMap fun place => place.node.pattern?

end EmitCall

/-- An emitter between two calls, with the file that it adds patterns to. -/
structure Emitter where
  context : EmissionContext
  draft : SourceDraft

namespace Emitter

def start (context : EmissionContext) : Emitter :=
  { context, draft := { file := .empty context.target } }

/-- A whole type is the one at hand until the next. -/
def contextOf (emitter : Emitter) : EmitCall → EmissionContext
  | .root name _ => { emitter.context with current := name }
  | .part _ => emitter.context

def emission (emitter : Emitter) (call : EmitCall) : Emission :=
  (emitter.contextOf call).emission call.place.cursor call.place.optional emitter.draft.patterns
    call.place.node.sorted

/-- A call adds the patterns it has met, also if it fails. -/
def call (emitter : Emitter) (call : EmitCall) : Emitter :=
  let patterns := (emitter.emission call).patterns
  { context := emitter.contextOf call
    draft := {
      file := emitter.draft.file.addPatterns emitter.draft.patterns patterns
      patterns := emitter.draft.patterns + patterns.length } }

def callAll (emitter : Emitter) (calls : List EmitCall) : Emitter :=
  calls.foldl call emitter

variable {emitter : Emitter} {target : Target} {patterns : List String}

/-- A type of a file is one call, of which the results are written where they belong. -/
theorem addEntry_eq_call (context : EmissionContext) (draft : SourceDraft) {entry : TypeEntry}
    (kind : entry.node.isEnumeration = false) :
    draft.addEntry context entry =
      let emitter : Emitter := { context, draft }
      let emission := emitter.emission (.root entry.name entry.node)
      let after := (emitter.call (.root entry.name entry.node)).draft
      emission.outcome.map fun (ignorable, checks) =>
        { after with
          file := (after.file.addExport entry.ident).addType entry.ident
            (context.declaration entry emission)
            (if ignorable then none else some (validatorText context.target checks)) } := by
  unfold SourceDraft.addEntry
  dsimp only
  split
  next values hn => simp [hn, TypeNode.isEnumeration] at kind
  next =>
    simp only [FileParts.addPatterns_addExport]
    rfl

theorem contextOf_table (emitter : Emitter) (call : EmitCall) :
    (emitter.contextOf call).table = emitter.context.table := by
  cases call <;> rfl

theorem registers_call (h : emitter.draft.Registers target patterns) (call : EmitCall) :
    (emitter.call call).draft.Registers target
      (patterns ++ call.visitedPatterns emitter.context.table) := by
  have visits := (emitter.contextOf call).visits_emission call.place.node.sorted
    call.place.cursor call.place.optional emitter.draft.patterns
  have met : (emitter.emission call).patterns = call.visitedPatterns emitter.context.table := by
    rw [emission, visits.patterns_eq, contextOf_table]
    rfl
  exact met ▸ h.addPatterns _

theorem registers_callAll (h : emitter.draft.Registers target patterns) (calls : List EmitCall) :
    (emitter.callAll calls).draft.Registers target
      (patterns ++ calls.flatMap fun call => call.visitedPatterns emitter.context.table) := by
  induction calls generalizing emitter patterns with
  | nil => rwa [List.flatMap_nil, List.append_nil]
  | cons call rest ih =>
    have same : (emitter.call call).context.table = emitter.context.table :=
      emitter.contextOf_table call
    rw [List.flatMap_cons, ← List.append_assoc, ← same]
    exact ih (same ▸ registers_call h call)

end Emitter

end CheckedTypes
