import CheckedTypes.Proofs.FileItem
import CheckedTypes.Proofs.QuotedText
import CheckedTypes.Proofs.WrittenText

namespace CheckedTypes

/-- The line that a validator starts with in the table of validators. -/
def checkHeader (ident : String) : String :=
  quote ident ++ ": function (main: any) \x7b"

theorem checkHeader_injective : Function.Injective checkHeader := by
  intro ident other h
  have chars := congrArg String.toList h
  rw [checkHeader, checkHeader, String.toList_append, String.toList_append] at chars
  exact quote_injective (String.toList_inj.mp (List.append_cancel_right chars))

theorem newline_not_mem_commaSeparated {parts : List String}
    (h : ∀ part ∈ parts, '\n' ∉ part.toList) : '\n' ∉ (Target.commaSeparated parts).toList := by
  unfold Target.commaSeparated
  induction parts with
  | nil => simp
  | cons part rest ih =>
    obtain ⟨hp, hr⟩ := List.forall_mem_cons.mp h
    cases rest with
    | nil => simpa using hp
    | cons => simpa [String.intercalate_cons_cons, hp] using ih hr

theorem newline_not_mem_literalList (values : List String) :
    '\n' ∉ (FileParts.literalList values).toList := by
  refine newline_not_mem_commaSeparated fun part hm => ?_
  obtain ⟨value, -, rfl⟩ := List.mem_map.mp hm
  exact newline_not_mem_quote value

namespace CodeWriter

variable {w : CodeWriter} {lines : List (List Char)}

/-- The test of an enumeration is inside a validator. -/
theorem Quiet.enumFailure {tab : String} {isKey : List Char → Bool} {plain : Prop} {depth : Nat}
    (h : w.Quiet tab isKey plain (depth + 1) lines) (target : Target) {arguments : List String}
    (ht : plain → ∀ argument ∈ arguments, '\n' ∉ argument.toList) :
    (FileParts.enumFailure w target arguments).Quiet tab isKey plain (depth + 1) lines := by
  have header (hp : plain) : '\n' ∉ (target.ifHeader
      ("!" ++ Helper.enumeration.call target arguments)).toList := by
    have call := newline_not_mem_commaSeparated (ht hp)
    cases target <;> simp [Target.ifHeader, Helper.call, Helper.name, call]
  have failure : '\n' ∉ (target.failureText Reason.enumeration.text FileParts.root).toList := by
    cases target <;> decide +kernel
  exact ((h.openBlock _ header).line _ fun _ => failure).closeBlock _ fun _ => by
    simp [Target.blockEnd]

/-- A line of the table of validators that starts an entry. -/
def isKeyLine (line : List Char) : Bool :=
  ['"'].isPrefixOf line

theorem atMargin_isKeyLine : AtMargin "    " isKeyLine :=
  ⟨rfl, fun _ => rfl⟩

theorem Shows.checkStart (h : w.Shows "    " 0 lines) (ident : String) :
    (FileParts.checkStart w ident).Quiet "    " isKeyLine True 1
      (lines ++ [(checkHeader ident).toList]) := by
  have header : '\n' ∉ (checkHeader ident).toList := by
    simp [checkHeader, newline_not_mem_quote]
  have start := h.openBlock (checkHeader ident)
  rw [indented_zero, splitOn_of_not_mem header] at start
  exact (start.quiet atMargin_isKeyLine True).line _ fun _ => by simp

theorem Quiet.checkEnd {ident : String}
    (h : w.Quiet "    " isKeyLine True 1 (lines ++ [(checkHeader ident).toList])) :
    ∃ added, (FileParts.checkEnd w).Shows "    " 0 (lines ++ added) ∧
      added.filter isKeyLine = [(checkHeader ident).toList] := by
  obtain ⟨-, body, shows, none⟩ := h
  have key : isKeyLine (checkHeader ident).toList = true := by
    simp [isKeyLine, checkHeader, quote, quotedChars]
  have done := shows.closeBlock "\x7d,"
  rw [List.append_assoc, List.append_assoc] at done
  refine ⟨_, done, ?_⟩
  have last : (splitOn '\n' (indented "    " 0 "\x7d,".toList)).filter isKeyLine = [] := by decide
  rw [List.filter_append, List.filter_append, none trivial, last, List.filter_cons_of_pos key]
  rfl

end CodeWriter

namespace FileParts

theorem addPatterns_frame (file : FileParts) (next : Nat) (patterns : List String) :
    (file.addPatterns next patterns).target = file.target ∧
      (file.addPatterns next patterns).declarations = file.declarations ∧
      (file.addPatterns next patterns).checks = file.checks := by
  induction patterns generalizing file next with
  | nil => exact ⟨rfl, rfl, rfl⟩
  | cons pattern rest ih =>
    obtain ⟨target, declarations, checks⟩ :=
      ih (file.addGlobal (file.target.patternDeclaration (patternVariable next) pattern)) (next + 1)
    exact ⟨target, declarations, checks⟩

end FileParts

namespace SourceDraft

open CodeWriter

variable {draft result : SourceDraft}

/-- In TypeScript an item with a validator is one entry of the table of validators. -/
theorem addItem_checks {item : FileItem} {lines : List (List Char)}
    (ht : draft.file.target = .typescript) (hs : draft.file.checks.Shows "    " 0 lines)
    (h : draft.addItem .typescript item = .ok result) :
    result.file.target = .typescript ∧
      ∃ added, result.file.checks.Shows "    " 0 (lines ++ added) ∧
        added.filter isKeyLine = (validatorIdents [item]).map fun ident =>
          (checkHeader ident).toList := by
  cases item with
  | enumeration ident values =>
    obtain ⟨file, hf, rfl⟩ := exists_of_map_eq_ok h
    obtain ⟨members, -, rfl⟩ := exists_of_map_eq_ok hf
    have plain : ∀ argument ∈ ["main", "[" ++ FileParts.literalList values ++ "]"],
        '\n' ∉ argument.toList := by
      simp [newline_not_mem_literalList]
    have body := (hs.checkStart ident).enumFailure .typescript fun _ => plain
    obtain ⟨added, done, key⟩ := body.checkEnd
    simp only [FileParts.addExport, ht]
    exact ⟨trivial, added, done, key⟩
  | type ident declaration patterns checks =>
    cases Except.ok.inj h
    obtain ⟨target, -, same⟩ := FileParts.addPatterns_frame
      (draft.file.addExport ident) draft.patterns patterns
    have target := target.trans ht
    have same : (FileParts.addPatterns (draft.file.addExport ident) draft.patterns
      patterns).checks = draft.file.checks := same
    cases checks with
    | none =>
      refine ⟨by simpa [FileParts.addType] using target, [], ?_, rfl⟩
      simpa [FileParts.addType, same] using hs
    | some checks =>
      have body := (hs.checkStart ident).embed (validatorText .typescript checks) fun _ line _ =>
        atMargin_isKeyLine.indented 0 line
      obtain ⟨added, done, key⟩ := body.checkEnd
      refine ⟨?_, added, ?_, key⟩
      · simp [FileParts.addType, target]
      · simpa [FileParts.addType, target, same] using done

theorem addItems_checks {items : List FileItem} {lines : List (List Char)}
    (ht : draft.file.target = .typescript) (hs : draft.file.checks.Shows "    " 0 lines)
    (h : draft.addItems .typescript items = .ok result) :
    result.file.target = .typescript ∧
      ∃ added, result.file.checks.Shows "    " 0 (lines ++ added) ∧
        added.filter isKeyLine = (validatorIdents items).map fun ident =>
          (checkHeader ident).toList := by
  induction items generalizing draft lines with
  | nil =>
    cases Except.ok.inj h
    exact ⟨ht, [], by rwa [List.append_nil], rfl⟩
  | cons item rest ih =>
    rw [addItems] at h
    split at h
    next => cases h
    next between hb =>
      obtain ⟨target, first, hfirst, keys⟩ := addItem_checks ht hs hb
      obtain ⟨target, more, hmore, others⟩ := ih target hfirst h
      rw [List.append_assoc] at hmore
      refine ⟨target, _, hmore, ?_⟩
      rw [List.filter_append, keys, others, validatorIdents_cons item rest, List.map_append]

end SourceDraft

open CodeWriter

/-- The line that opens the table of validators. -/
def checkTableHeader : String :=
  "const $checkTable: Record<string, ((main: any) => void) | undefined> = \x7b"

theorem continues_writeSection (w part : CodeWriter) :
    w.Continues (FileParts.writeSection w part) := by
  unfold FileParts.writeSection
  split
  next => exact .refl w
  next => exact (continues_newline w).trans (continues_embed _ _)

/-- A section stands in the file as it is. -/
theorem writeSection_toList {w : CodeWriter} (part : CodeWriter) (depth : w.depth = 0) :
    ∃ before, (FileParts.writeSection w part).text.toList =
      before ++ joinLines (textLines part.text.toList) := by
  unfold FileParts.writeSection
  split
  next he =>
    rw [CodeWriter.isEmpty, String.isEmpty_iff] at he
    exact ⟨w.text.toList, by simp [he, textLines, joinLines]⟩
  next =>
    have same : indented w.newline.tab w.newline.depth = id := by
      funext line
      rw [CodeWriter.newline, depth]
      exact indented_zero _ _
    exact ⟨_, by rw [embed_toList rfl, same, List.map_id]⟩

/-- What comes before the table of validators. -/
def typeScriptHead (file : FileParts) (modulePath : String) : CodeWriter :=
  let w := (CodeWriter.line { tab := file.target.tab } FileParts.notice).line
    ("// module: " ++ modulePath)
  let w := w.newline.embed typeScriptSupport
  (FileParts.writeSection (FileParts.writeSection w file.globals) file.declarations).newline

theorem continues_typeScriptHead (file : FileParts) (modulePath : String) :
    CodeWriter.Continues { tab := file.target.tab } (typeScriptHead file modulePath) := by
  have notice := (continues_line { tab := file.target.tab } FileParts.notice).trans
    (continues_line _ ("// module: " ++ modulePath))
  have support (w : CodeWriter) := (continues_newline w).trans
    (continues_embed _ typeScriptSupport)
  have sections (w : CodeWriter) := (continues_writeSection w file.globals).trans
    (continues_writeSection _ file.declarations)
  exact ((notice.trans (support _)).trans (sections _)).trans (continues_newline _)

/-- What comes behind the table of validators. -/
theorem continues_typeScriptFile (file : FileParts) (modulePath : String) :
    CodeWriter.Continues
      ((((typeScriptHead file modulePath).openBlock checkTableHeader).embed
        file.checks.text).closeBlock "\x7d;")
      (file.typeScriptFile modulePath) := by
  have exports (w : CodeWriter) := (continues_lines
    (w.openBlock "export interface $typelist \x7b")
    (fun ident => quote ident ++ ": " ++ ident ++ ";") file.exported).block Target.blockEnd
  have decode (w : CodeWriter) (header : String) := (((continues_line (w.openBlock header)
    "const main = JSON.parse(text);").trans (continues_line _ "$checkTable[type]?.(main);")).trans
      (continues_line _ "return main as $typelist[K];")).block Target.blockEnd
  exact (((continues_newline _).trans (exports _)).trans (continues_newline _)).trans (decode _ _)

/-- The table of validators stands in the file as it is, one step to the right. -/
theorem FileParts.typeScriptFile_checks (file : FileParts) (modulePath : String)
    (ht : file.target = .typescript) : ∃ before after,
      (file.typeScriptFile modulePath).text.toList = before ++
        joinLines (checkTableHeader.toList ::
          (textLines file.checks.text.toList).map (indented "    " 1) ++ ["\x7d;".toList]) ++
        after := by
  have head := continues_typeScriptHead file modulePath
  obtain ⟨after, ha⟩ := (continues_typeScriptFile file modulePath).begins
  refine ⟨(typeScriptHead file modulePath).text.toList, after, ?_⟩
  have table := block_toList (w := typeScriptHead file modulePath) rfl checkTableHeader
    file.checks.text "\x7d;"
  have tab : (typeScriptHead file modulePath).tab = "    " := by
    rw [head.tab_eq, ht]
    rfl
  have depth : (typeScriptHead file modulePath).depth = 0 := head.depth_eq
  simp only [tab, depth, indented_zero] at table
  rw [← ha, table]

/-- A line of the finished file that starts an entry of the table of validators. -/
def isKeyRow (row : List Char) : Bool :=
  [' ', ' ', ' ', ' ', '"'].isPrefixOf row

theorem isKeyRow_indented (line : List Char) :
    isKeyRow (indented "    " 1 (trimmedLine line)) = isKeyLine line := by
  unfold trimmedLine
  split
  next => rfl
  next => rfl
  next => simp [indented, isKeyRow, isKeyLine, List.isPrefixOf]

theorem indented_checkHeader (ident : String) :
    indented "    " 1 (trimmedLine (checkHeader ident).toList) =
      ("    " ++ checkHeader ident).toList := by
  obtain ⟨before, h⟩ : ∃ before, (checkHeader ident).toList = before ++ ['\x7b'] :=
    ⟨(quote ident).toList ++ ": function (main: any) ".toList, by simp [checkHeader]⟩
  have kept : trimmedLine (checkHeader ident).toList = (checkHeader ident).toList := by
    rw [h, trimmedLine_append_singleton (by decide)]
  have nonempty : (checkHeader ident).toList ≠ [] := by simp [h]
  rw [kept, indented, if_neg nonempty, String.toList_append]
  rfl

/-- The lines that start an entry are those of the validators. -/
theorem filter_isKeyRow {lines : List (List Char)} {idents : List String}
    (h : lines.filter isKeyLine = idents.map fun ident => (checkHeader ident).toList) :
    ((lines.map trimmedLine).map (indented "    " 1)).filter isKeyRow =
      idents.map fun ident => ("    " ++ checkHeader ident).toList := by
  have same : isKeyRow ∘ indented "    " 1 ∘ trimmedLine = isKeyLine := funext isKeyRow_indented
  rw [List.map_map, List.filter_map, same, h, List.map_map, List.map_inj_left]
  intro ident _
  rw [Function.comp_apply, Function.comp_apply, indented_checkHeader]

theorem TypeTable.Renders.checkTable {table : TypeTable} {modulePath text : String}
    {validated : List String} {items : List FileItem} {file : FileParts}
    (h : table.Renders .typescript modulePath text validated items file) :
    ∃ before rows after, text.toList = before ++
        joinLines (checkTableHeader.toList :: rows ++ ["\x7d;".toList]) ++ after ∧
      (∀ row ∈ rows, '\n' ∉ row) ∧
      rows.filter isKeyRow =
        (validatorIdents items).map fun ident => ("    " ++ checkHeader ident).toList := by
  obtain ⟨count, written⟩ := h.written
  have start : (FileParts.empty .typescript).checks.Shows "    " 0 [] :=
    ⟨rfl, by decide, rfl, rfl, rfl, by simp⟩
  obtain ⟨target, lines, shows, keys⟩ := SourceDraft.addItems_checks rfl start written
  obtain ⟨before, after, placed⟩ := file.typeScriptFile_checks modulePath target
  refine ⟨before, _, after, ?_, ?_, filter_isKeyRow keys⟩
  · rw [h.text_eq, FileParts.assemble, target, placed, shows.text_eq,
      textLines_joinLines shows.plain]
    rfl
  · intro row hr
    obtain ⟨line, hl, rfl⟩ := List.mem_map.mp hr
    rw [← textLines_joinLines fun line hm => shows.plain line (by simpa using hm)] at hl
    exact newline_not_mem_indented shows.tab_plain (newline_not_mem_textLines hl)

end CheckedTypes
