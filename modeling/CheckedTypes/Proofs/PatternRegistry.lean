import CheckedTypes.Proofs.PatternDeclaration
import CheckedTypes.Proofs.PatternTest
import CheckedTypes.Proofs.WellFormedSchema

namespace CheckedTypes

/-- The patterns in a named type, with its identifier. -/
def TypeEntry.patternPlaces (entry : TypeEntry) : List (String × PatternPlace) :=
  (entry.node.patternPlaces FileParts.root false).map fun place => (entry.ident, place)

/-- The patterns in a table: the types by name, and the members of an object by name. -/
def TypeTable.patternPlaces (table : TypeTable) : List (String × PatternPlace) :=
  table.sortedEntries.flatMap TypeEntry.patternPlaces

/-- The checks of patterns in the validator of an item. -/
def FileItem.patternUses (item : FileItem) : List (String × PatternUse) :=
  (Statement.patternUses item.checks).map fun use => (item.ident, use)

/-- The check of a pattern under its number. -/
def numberedCheck (index : Nat) (place : String × PatternPlace) : String × PatternUse :=
  (place.1, place.2.use index)

namespace EmissionContext

variable {context : EmissionContext} {next : Nat} {entry : TypeEntry} {item : FileItem}

theorem EmitsItem.patterns_eq (h : context.EmitsItem next entry item) :
    item.patterns = entry.patternPlaces.map fun place => place.2.pattern := by
  rw [TypeEntry.patternPlaces, List.map_map]
  cases h with
  | enumeration hn => rw [hn]; rfl
  | type _ emits => exact emits.patterns_eq_map

/-- A validator checks all the patterns of its type, and a type that has none may do without. -/
theorem EmitsItem.patternUses (h : context.EmitsItem next entry item) :
    item.patternUses = numbered next numberedCheck entry.patternPlaces := by
  have uses : Statement.patternUses item.checks =
      numbered next PatternPlace.use (entry.node.patternPlaces FileParts.root false) := by
    cases h with
    | enumeration hn => rw [hn]; rfl
    | @type ignorable checks patterns _ emits =>
      cases ignorable with
      | false => exact emits.patternUses
      | true =>
        have empty := emits.patterns_eq_map.symm.trans emits.patterns_of_ignorable
        rw [List.map_eq_nil_iff.mp empty]
        rfl
  rw [FileItem.patternUses, uses, h.ident]
  rw [TypeEntry.patternPlaces, map_numbered, numbered_map]
  rfl

variable {entries : List TypeEntry} {items : List FileItem}

theorem EmitsItems.patterns_eq (h : context.EmitsItems next entries items) :
    items.flatMap FileItem.patterns =
      (entries.flatMap TypeEntry.patternPlaces).map fun place => place.2.pattern := by
  induction h with
  | nil => rfl
  | cons first _ ih => rw [List.flatMap_cons, List.flatMap_cons, List.map_append,
      first.patterns_eq, ih]

/-- The count goes on from one type to the next. -/
theorem EmitsItems.patternUses (h : context.EmitsItems next entries items) :
    items.flatMap FileItem.patternUses =
      numbered next numberedCheck (entries.flatMap TypeEntry.patternPlaces) := by
  induction h with
  | nil => rfl
  | cons first _ ih =>
    have count := congrArg List.length first.patterns_eq
    rw [List.length_map] at count
    rw [List.flatMap_cons, List.flatMap_cons, numbered_append, first.patternUses, ih, count]

end EmissionContext

namespace SourceDraft

/-- What a draft declares is one line for each pattern. -/
theorem Registers.lines {draft : SourceDraft} {target : Target} {patterns : List String}
    (h : draft.Registers target patterns) :
    draft.file.globals.text.toList = joinLines (target.patternLines 0 patterns) ∧
      textLines draft.file.globals.text.toList = target.patternLines 0 patterns ∧
      (target.patternLines 0 patterns).length = draft.patterns := by
  refine ⟨h.shows.text_eq, ?_, by simp [Target.patternLines, numbered, h.count]⟩
  rw [h.shows.text_eq, textLines_joinLines h.shows.plain, Target.map_trimmedLine_patternLines]

end SourceDraft

namespace TypeTable

variable {table : TypeTable} {target : Target} {modulePath text : String}
  {validated : List String} {items : List FileItem} {file : FileParts}

/-- A file declares the patterns of its table, and the declarations are lines of the text. -/
theorem Renders.patternLines (h : table.Renders target modulePath text validated items file) :
    textLines file.globals.text.toList =
        target.patternLines 0 (table.patternPlaces.map fun place => place.2.pattern) ∧
      joinLines (textLines file.globals.text.toList) <:+: text.toList := by
  obtain ⟨count, written⟩ := h.written
  have registers := (SourceDraft.registers_empty target).addItems written
  rw [List.nil_append, h.emits.patterns_eq] at registers
  obtain ⟨before, after, placed⟩ := file.assemble_globals modulePath
  exact ⟨registers.lines.2.1, before, after, h.text_eq ▸ placed.symm⟩

/-- Patterns are registered without loss, duplication or reuse. Whatever an emitter is called with,
and also if some of it cannot be generated, one line is declared for each pattern that is visited,
in this order. In a file these are all the patterns of the types of the table. Each of them is
checked once, in the validator of its type and at its place, under the number of its own line. The
lines of the validators stand in the text like those of the patterns, and no other line of a
validator tests a pattern. -/
theorem patterns_registered :
    (∀ (context : EmissionContext) (calls : List EmitCall),
      let draft := ((Emitter.start context).callAll calls).draft
      let lines := context.target.patternLines 0
        (calls.flatMap fun call => call.visitedPatterns context.table)
      draft.file.globals.text.toList = joinLines lines ∧
        textLines draft.file.globals.text.toList = lines ∧ lines.length = draft.patterns) ∧
    ∀ (table : TypeTable) (target : Target) (modulePath text : String),
      table.render target modulePath = .ok text →
      ∃ validated items file, table.Renders target modulePath text validated items file ∧
        textLines file.globals.text.toList =
          target.patternLines 0 (table.patternPlaces.map fun place => place.2.pattern) ∧
        joinLines (textLines file.globals.text.toList) <:+: text.toList ∧
        items.flatMap FileItem.patternUses = numbered 0 numberedCheck table.patternPlaces ∧
        (items.flatMap FileItem.patternUses).map (fun check => check.2.index) =
          List.range (textLines file.globals.text.toList).length ∧
        ∀ item ∈ items, joinLines (target.validatorLines item.checks) <:+: text.toList ∧
          (target = .typescript ∨ table.NamesOnOneLine →
            ((target.validatorLines item.checks).map unindented).filter target.testsPattern =
              item.patternUses.map fun check => (target.patternTest check.2).toList) := by
  refine ⟨fun context calls => ?_, fun table target modulePath text h => ?_⟩
  · have start : (Emitter.start context).draft.Registers context.target [] :=
      SourceDraft.registers_empty context.target
    exact (Emitter.registers_callAll start calls).lines
  · obtain ⟨validated, items, file, renders⟩ := renders_of_render h
    obtain ⟨declared, placed⟩ := renders.patternLines
    have uses : items.flatMap FileItem.patternUses =
        numbered 0 numberedCheck table.patternPlaces := renders.emits.patternUses
    have indices : (items.flatMap FileItem.patternUses).map (fun check => check.2.index) =
        List.range (textLines file.globals.text.toList).length := by
      have length : (textLines file.globals.text.toList).length = table.patternPlaces.length := by
        simp [declared, Target.patternLines, numbered]
      rw [uses, map_numbered, length]
      exact numbered_index _
    refine ⟨validated, items, file, renders, declared, placed, uses, indices, fun item hm =>
      ⟨renders.validatorLines_placed hm, fun names => ?_⟩⟩
    rw [renders.patternTests names hm, FileItem.patternUses, List.map_map]
    rfl

/-- Boxes with a mark and a size, of which only the size has to be there, rows of marks, a kind, and
a title that nothing is asked of. -/
def shelfTable : TypeTable where
  entries := [
    ⟨"row", ["row"], .array (some (.string { pattern := some "r" })) false {}, "Row"⟩,
    ⟨"title", ["title"], .string {}, "Title"⟩,
    ⟨"kind", ["kind"], .enumeration ["open", "closed"], "Kind"⟩,
    ⟨"box", ["box"], .object [("size", .string { pattern := some "s" }),
      ("mark", .string { pattern := some "m" })] (some ["size"]), "Box"⟩]
  nodup_name := by decide
  nodup_ident := by decide

/-- An object of which the second member cannot be generated. -/
def brokenNode : TypeNode :=
  .object [("c", .string { pattern := some "c" }), ("b", .array none false {}),
    ("a", .string { pattern := some "a" })] none

theorem shelfTable_wellFormed : shelfTable.WellFormed := by
  constructor
  · intro entry hm values hn
    fin_cases hm
    · cases hn
    · cases hn
    · cases hn
      decide
    · cases hn
  · intro entry hm kind
    fin_cases hm
    · refine TypeNode.wellFormed_array.mpr ⟨rfl, ?_⟩
      rintro part ⟨⟩
      trivial
    · rintro part ⟨⟩
      trivial
    · cases kind
    · refine TypeNode.wellFormed_object.mpr ⟨by decide, fun name node hp part hw => ?_⟩
      fin_cases hp
      · cases hw; trivial
      · cases hw; trivial

/-- An emitter goes on after a call that fails, and a file has the patterns of its boxes and rows. -/
theorem patterns_registered_shelf :
    (∃ context, EmissionContext.ofTable .go shelfTable = .ok context ∧
      (∃ fault, ((Emitter.start context).emission (.root "broken" brokenNode)).outcome =
        .error fault) ∧
      let draft := ((Emitter.start context).callAll [.root "broken" brokenNode,
        .part ⟨FileParts.root, true, .string { pattern := some "d" }⟩]).draft
      textLines draft.file.globals.text.toList = Target.go.patternLines 0 ["a", "d"]) ∧
    ∃ text, shelfTable.render .go "shelf" = .ok text ∧
      joinLines (Target.go.patternLines 0 ["m", "s", "r"]) <:+: text.toList ∧
      ∃ validated items file, shelfTable.Renders .go "shelf" text validated items file ∧
        items.flatMap FileItem.patternUses = [
          ("Box", ⟨0, FileParts.root.field "mark", true⟩),
          ("Box", ⟨1, FileParts.root.field "size", false⟩),
          ("Row", ⟨2, FileParts.root.element, false⟩)] := by
  obtain ⟨called, rendered⟩ := patterns_registered
  constructor
  · let context : EmissionContext :=
      { target := .go, table := shelfTable, validated := ["Kind", "Box", "Row"], current := "" }
    have lines := (called context [.root "broken" brokenNode,
      .part ⟨FileParts.root, true, .string { pattern := some "d" }⟩]).2.1
    have visited : [EmitCall.root "broken" brokenNode,
        .part ⟨FileParts.root, true, .string { pattern := some "d" }⟩].flatMap
          (fun call => call.visitedPatterns shelfTable) = ["a", "d"] := by cbv
    exact ⟨context, by cbv, ⟨_, by cbv⟩, visited ▸ lines⟩
  · obtain ⟨text, hr⟩ := (@exists_render_iff shelfTable .go "shelf").mpr shelfTable_wellFormed
    obtain ⟨validated, items, file, renders, declared, placed, uses, -⟩ :=
      rendered shelfTable .go "shelf" text hr
    have places : shelfTable.patternPlaces = [("Box", ⟨FileParts.root.field "mark", true, "m"⟩),
        ("Box", ⟨FileParts.root.field "size", false, "s"⟩),
        ("Row", ⟨FileParts.root.element, false, "r"⟩)] := by cbv
    rw [places] at declared uses
    rw [declared] at placed
    exact ⟨text, hr, placed, validated, items, file, renders, uses⟩

end TypeTable

end CheckedTypes
