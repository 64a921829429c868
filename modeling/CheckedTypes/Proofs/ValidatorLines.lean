import CheckedTypes.Proofs.SharedChecks
import CheckedTypes.Proofs.WrittenMethods

namespace CheckedTypes

open Statement CodeWriter

theorem infix_joinLines {rows lines : List (List Char)} (h : rows <:+: lines) :
    joinLines rows <:+: joinLines lines := by
  obtain ⟨before, after, rfl⟩ := h
  exact ⟨joinLines before, joinLines after, by rw [joinLines_append, joinLines_append]⟩

namespace Cursor.PlainIn

variable {cursor : Cursor} {target : Target}

theorem field (h : cursor.PlainIn target) {name : String}
    (hn : '\n' ∉ (target.fieldAccessor name).toList) : (cursor.field name).PlainIn target := by
  unfold PlainIn Target.expression Cursor.expression Cursor.accessors at h ⊢
  rw [Cursor.raw_field]
  simp_all [Cursor.field]

theorem element (h : cursor.PlainIn target) : cursor.element.PlainIn target := by
  unfold PlainIn Target.expression Cursor.expression Cursor.accessors at h ⊢
  rw [Cursor.raw_element]
  simp_all [Cursor.element, Cursor.OnOneLine.loopVariable]

end Cursor.PlainIn

/-- Where names are quoted they cannot reach over the end of a line. -/
theorem Target.newline_not_mem_fieldAccessor {target : Target} {name : String}
    (h : target = .typescript ∨ '\n' ∉ name.toList) :
    '\n' ∉ (target.fieldAccessor name).toList := by
  unfold fieldAccessor
  cases target with
  | go => simpa using newline_not_mem_renderName (h.resolve_left (by simp))
  | typescript => simp [newline_not_mem_quote]

namespace CodeWriter

variable {w : CodeWriter} {lines : List (List Char)}

/-- The lines of a validator stand in its entry of the table of validators. -/
theorem Shows.checkEntry (h : w.Shows "    " 0 lines) (ident validation : String) :
    ∃ before after,
      (FileParts.checkEnd ((FileParts.checkStart w ident).embed validation)).Shows "    " 0
        (lines ++ (before ++ (textLines validation.toList).map (indented "    " 1) ++ after)) := by
  obtain ⟨-, before, opened, -⟩ := h.checkStart ident
  have done := (opened.embed validation).closeBlock "\x7d,"
  refine ⟨(checkHeader ident).toList :: before,
    splitOn '\n' (indented "    " 0 "\x7d,".toList), ?_⟩
  simp only [List.append_assoc, List.cons_append, List.nil_append] at done ⊢
  exact done

/-- The lines of a validator stand in its method. -/
theorem Shows.validatorMethod (h : w.Shows "\t" 0 lines) (ident validation : String) :
    ∃ before after, (FileParts.goValidator w ident validation).Shows "\t" 0
      (lines ++ (before ++ (textLines validation.toList).map (indented "\t" 1) ++ after)) := by
  obtain ⟨-, blank, below, -⟩ := (h.quiet atMargin_isMethodLine False).newline
  have start := (below.goMethodStart ident False).line "raw, err := decodeRaw(buffer)" False.elim
  have failure := ((start.openBlock "if err != nil \x7b" False.elim).line "return err"
    False.elim).closeBlock Target.blockEnd False.elim
  obtain ⟨-, before, opened, -⟩ := (((failure.line "_ = raw" False.elim).line
    ("type internal " ++ ident) False.elim).line "var main internal" False.elim).goDecodeMain
  have body := opened.embed validation
  obtain ⟨-, after, ended, -⟩ := ((body.quiet atMargin_isMethodLine False).line
    ("*object = " ++ ident ++ "(main)") False.elim).line "return nil" False.elim
  have done := ended.closeBlock Target.blockEnd
  refine ⟨blank ++ splitOn '\n' (methodHeader ident).toList ++ before,
    after ++ splitOn '\n' (indented "\t" 0 Target.blockEnd.toList), ?_⟩
  simp only [List.append_assoc, Nat.zero_add] at done ⊢
  exact done

end CodeWriter

namespace SourceDraft

variable {draft result : SourceDraft} {lines : List (List Char)} {items : List FileItem}

/-- Every item is written at some time, with those before it written already. -/
theorem exists_addItems {target : Target} (h : draft.addItems target items = .ok result)
    {item : FileItem} (hm : item ∈ items) :
    ∃ front back before after, items = front ++ item :: back ∧
      draft.addItems target front = .ok before ∧ before.addItem target item = .ok after ∧
        after.addItems target back = .ok result := by
  induction items generalizing draft with
  | nil => cases hm
  | cons first rest ih =>
    rw [addItems] at h
    split at h
    next => cases h
    next between hb =>
      rcases List.mem_cons.mp hm with rfl | hm
      · exact ⟨[], rest, draft, between, rfl, rfl, hb, h⟩
      · obtain ⟨front, back, before, after, rfl, hf, ha, hr⟩ := ih h hm
        refine ⟨first :: front, back, before, after, rfl, ?_, ha, hr⟩
        rw [addItems, hb]
        exact hf

end SourceDraft

namespace FileParts

/-- The section in which the validators stand. -/
def validators (file : FileParts) : Target → CodeWriter
  | .go => file.declarations
  | .typescript => file.checks

end FileParts

/-- A line of the section of the validators as it stands in the file. -/
def Target.sectionLine : Target → List Char → List Char
  | .go, line => trimmedLine line
  | .typescript, line => indented "    " 1 (trimmedLine line)

/-- The section of the validators stands in the file. -/
theorem FileParts.sectionLines_placed {file : FileParts} {target : Target}
    (ht : file.target = target) {lines : List (List Char)}
    (hs : (file.validators target).Shows target.tab 0 lines) (modulePath : String) :
    joinLines (lines.map target.sectionLine) <:+: (file.assemble modulePath).toList := by
  unfold assemble
  rw [ht]
  cases target with
  | go =>
    obtain ⟨before, placed⟩ := file.goFile_declarations modulePath
    have shows : file.declarations.Shows "\t" 0 lines := hs
    rw [shows.text_eq, textLines_joinLines shows.plain] at placed
    exact ⟨before, [], by rw [placed, List.append_nil]; rfl⟩
  | typescript =>
    obtain ⟨before, after, placed⟩ := file.typeScriptFile_checks modulePath ht
    have shows : file.checks.Shows "    " 0 lines := hs
    rw [shows.text_eq, textLines_joinLines shows.plain, List.map_map] at placed
    have inside : lines.map (indented "    " 1 ∘ trimmedLine) <:+: checkTableHeader.toList ::
        lines.map (indented "    " 1 ∘ trimmedLine) ++ ["\x7d;".toList] :=
      ⟨[checkTableHeader.toList], ["\x7d;".toList], rfl⟩
    rw [placed, List.append_assoc]
    exact ((infix_joinLines inside).trans (List.prefix_append _ _).isInfix).trans
      (List.suffix_append _ _).isInfix

namespace SourceDraft

variable {draft result : SourceDraft} {target : Target} {lines : List (List Char)}
  {items : List FileItem}

theorem addItems_validators (ht : draft.file.target = target)
    (hs : (draft.file.validators target).Shows target.tab 0 lines)
    (h : draft.addItems target items = .ok result) :
    result.file.target = target ∧
      ∃ added, (result.file.validators target).Shows target.tab 0 (lines ++ added) := by
  cases target with
  | go =>
    obtain ⟨same, added, shows, -⟩ := addItems_declarations ht hs h
    exact ⟨same, added, shows⟩
  | typescript =>
    obtain ⟨same, added, shows, -⟩ := addItems_checks ht hs h
    exact ⟨same, added, shows⟩

/-- What an item adds to the validators has the lines of its own in it. -/
theorem addItem_validator {item : FileItem} (ht : draft.file.target = target)
    (hs : (draft.file.validators target).Shows target.tab 0 lines)
    (h : draft.addItem target item = .ok result) :
    result.file.target = target ∧ ∃ before after, (result.file.validators target).Shows target.tab 0
      (lines ++ (before ++
        (textLines (validatorText target item.checks).toList).map (indented target.tab 1) ++
          after)) := by
  have alone : draft.addItems target [item] = .ok result := by
    rw [addItems, h]
    rfl
  obtain ⟨kept, added, shows⟩ := addItems_validators ht hs alone
  refine ⟨kept, ?_⟩
  by_cases empty : item.checks = []
  · refine ⟨added, [], ?_⟩
    rwa [empty, List.append_nil, show textLines (validatorText target []).toList = [] from rfl,
      List.map_nil, List.append_nil]
  · obtain ⟨ident, declaration, patterns, checks, rfl⟩ : ∃ ident declaration patterns checks,
        item = .type ident declaration patterns (some checks) := by
      cases item with
      | enumeration => exact absurd rfl empty
      | type ident declaration patterns checks =>
        cases checks with
        | none => exact absurd rfl empty
        | some checks => exact ⟨_, _, _, _, rfl⟩
    cases Except.ok.inj h
    obtain ⟨same, sections, table⟩ := FileParts.addPatterns_frame
      (draft.file.addExport ident) draft.patterns patterns
    have same := same.trans ht
    cases target with
    | go =>
      have start : draft.file.declarations.Shows "\t" 0 lines := hs
      obtain ⟨-, added, declared, -⟩ :=
        ((start.quiet atMargin_isMethodLine False).separate).embed declaration False.elim
      obtain ⟨before, after, method⟩ :=
        declared.validatorMethod ident (validatorText .go checks)
      refine ⟨added ++ before, after, ?_⟩
      simp only [FileParts.addType, Option.map_some, same, sections, List.append_assoc] at method ⊢
      exact method
    | typescript =>
      have start : draft.file.checks.Shows "    " 0 lines := hs
      obtain ⟨before, after, entry⟩ := start.checkEntry ident (validatorText .typescript checks)
      refine ⟨before, after, ?_⟩
      simp only [FileParts.addType, Option.map_some, same, table]
      exact entry

end SourceDraft

/-- How deep the statements of a validator are in a file. -/
def Target.validatorDepth : Target → Nat
  | .go => 1
  | .typescript => 2

/-- The lines of a validator where it stands in a file. -/
def Target.validatorLines (target : Target) (checks : List Statement) : List (List Char) :=
  ((textLines (validatorText target checks).toList).map (indented target.tab 1)).map
    target.sectionLine

theorem Target.sectionLine_line (target : Target) (row : Nat × Row) :
    target.sectionLine (indented target.tab 1 (Row.line target row)) =
      Row.line target (row.1 + target.validatorDepth, row.2) := by
  have deeper : indented target.tab 1 (Row.line target row) =
      Row.line target (row.1 + 1, row.2) := indented_indented _ _ _ _
  rw [deeper]
  cases target with
  | go => exact Row.trimmedLine_line .go _
  | typescript =>
    rw [sectionLine, Row.trimmedLine_line]
    exact indented_indented _ _ _ _

/-- They are the rows of the validator if each row is one line. -/
theorem Target.validatorLines_eq {target : Target} {checks : List Statement}
    (plain : ∀ cursor ∈ cursorsAll checks, cursor.PlainIn target) :
    target.validatorLines checks =
      (rowsAll target.validatorDepth checks).map (Row.line target) := by
  have deeper := rowsAll_add target.validatorDepth 0 checks
  rw [Nat.zero_add] at deeper
  rw [validatorLines, (validatorText_rows plain).2, deeper, List.map_map, List.map_map,
    List.map_map]
  exact List.map_congr_left fun row _ => target.sectionLine_line row

namespace TypeTable.Renders

variable {table : TypeTable} {target : Target} {modulePath text : String}
  {validated : List String} {items : List FileItem} {file : FileParts}

/-- The lines of each validator stand in the text. -/
theorem validatorLines_placed (h : table.Renders target modulePath text validated items file)
    {item : FileItem} (hm : item ∈ items) :
    joinLines (target.validatorLines item.checks) <:+: text.toList := by
  obtain ⟨count, written⟩ := h.written
  obtain ⟨front, back, before, after, -, first, step, last⟩ :=
    SourceDraft.exists_addItems written hm
  have start : ((FileParts.empty target).validators target).Shows target.tab 0 [] := by
    cases target <;> exact shows_empty _
  obtain ⟨same, lines, shows⟩ := @SourceDraft.addItems_validators
    { file := .empty target } _ target _ _ rfl start first
  obtain ⟨kept, above, below, mine⟩ := SourceDraft.addItem_validator same shows step
  obtain ⟨kept, rest, all⟩ := SourceDraft.addItems_validators kept mine last
  have inside : (textLines (validatorText target item.checks).toList).map (indented target.tab 1)
      <:+: lines ++ (above ++ (textLines (validatorText target item.checks).toList).map
        (indented target.tab 1) ++ below) ++ rest :=
    ⟨lines ++ above, below ++ rest, by simp only [List.append_assoc]⟩
  rw [h.text_eq]
  refine (infix_joinLines ?_).trans (FileParts.sectionLines_placed kept all modulePath)
  exact inside.map target.sectionLine

/-- What every descent keeps holds of the places that validators look at. -/
theorem forall_mem_cursorsAll (h : table.Renders target modulePath text validated items file)
    {Fits : Cursor → Prop} (fits : Fits FileParts.root)
    (element : ∀ cursor, Fits cursor → Fits cursor.element)
    (field : ∀ entry ∈ table.entries, ∀ name, entry.node.HasProperty name →
      ∀ cursor, Fits cursor → Fits (cursor.field name)) {item : FileItem} (hm : item ∈ items) :
    ∀ cursor ∈ cursorsAll item.checks, Fits cursor := by
  obtain ⟨next, entry, he, emits⟩ := h.emits.exists_entry hm
  cases emits with
  | enumeration => exact fun _ hc => absurd hc List.not_mem_nil
  | @type ignorable checks patterns _ emits =>
    cases ignorable with
    | true => exact fun _ hc => absurd hc List.not_mem_nil
    | false =>
      exact emits.forall_mem_cursorsAll fits element (field entry (mem_sortedEntries.mp he))

/-- Each statement of a validator is in lines of its own, unless names are spread over lines. -/
theorem validatorLines_eq (h : table.Renders target modulePath text validated items file)
    (names : target = .typescript ∨ table.NamesOnOneLine) {item : FileItem} (hm : item ∈ items) :
    target.validatorLines item.checks =
      (rowsAll target.validatorDepth item.checks).map (Row.line target) := by
  have root : FileParts.root.PlainIn target :=
    Cursor.OnOneLine.plainIn ⟨by decide, fun _ hm => absurd hm List.not_mem_nil⟩ target
  refine Target.validatorLines_eq (h.forall_mem_cursorsAll root (fun _ fits => fits.element)
    (fun entry he name hn cursor fits => ?_) hm)
  refine fits.field (Target.newline_not_mem_fieldAccessor (names.imp_right fun names => ?_))
  obtain ⟨properties, required, child, hw, hp⟩ := hn
  exact names.name entry he _ hw name (List.mem_map_of_mem (f := Prod.fst) hp)

end TypeTable.Renders

end CheckedTypes
