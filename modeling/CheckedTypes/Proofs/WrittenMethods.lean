import CheckedTypes.Proofs.DeclaredText
import CheckedTypes.Proofs.WrittenChecks

namespace CheckedTypes

/-- The line that a validator starts with among the declarations. -/
def methodHeader (ident : String) : String :=
  "func (object *" ++ ident ++ ") UnmarshalJSON(buffer []byte) error \x7b"

theorem methodHeader_injective : Function.Injective methodHeader := by
  intro ident other h
  have chars := congrArg String.toList h
  simp only [methodHeader, String.toList_append, List.append_assoc] at chars
  exact String.toList_inj.mp (List.append_cancel_right (List.append_cancel_left chars))

theorem newline_not_mem_methodHeader {ident : String} (h : '\n' ∉ ident.toList) :
    '\n' ∉ (methodHeader ident).toList := by
  simp [methodHeader, h]

theorem trimmedLine_methodHeader (ident : String) :
    trimmedLine (methodHeader ident).toList = (methodHeader ident).toList := by
  have last : (methodHeader ident).toList = ("func (object *" ++ ident ++
      ") UnmarshalJSON(buffer []byte) error ").toList ++ ['\x7b'] := by
    simp [methodHeader]
  rw [last, trimmedLine_append_singleton (by decide)]

/-- A line that starts a method. -/
def isMethodLine (line : List Char) : Bool :=
  "func (object *".toList.isPrefixOf line

theorem isMethodLine_methodHeader (ident : String) :
    isMethodLine (methodHeader ident).toList = true := by
  rw [isMethodLine, List.isPrefixOf_iff_prefix, methodHeader, String.toList_append,
    String.toList_append, List.append_assoc]
  exact List.prefix_append _ _

theorem not_isMethodLine_of_head? {line : List Char} (h : line.head? ≠ some 'f') :
    isMethodLine line = false := by
  cases line with
  | nil => rfl
  | cons c line =>
    have hc : 'f' ≠ c := fun he => h (he ▸ rfl)
    simp [isMethodLine, List.isPrefixOf, hc]

theorem enumMembers_eq {ident : String} {seen values : List String}
    {members : List (String × String)} (h : FileParts.enumMembers ident seen values = .ok members) :
    members = values.map fun value => (renderName value, value) := by
  induction values generalizing seen members with
  | nil => exact (Except.ok.inj h).symm
  | cons value rest ih =>
    unfold FileParts.enumMembers at h
    dsimp only at h
    split at h
    next => cases h
    next =>
      obtain ⟨others, ho, rfl⟩ := exists_of_map_eq_ok h
      rw [ih ho, List.map_cons]

namespace CodeWriter

theorem atMargin_isMethodLine : AtMargin "\t" isMethodLine :=
  ⟨rfl, fun _ => rfl⟩

variable {w : CodeWriter} {lines : List (List Char)} {plain : Prop}

theorem Quiet.goDecodeMain {isKey : List Char → Bool} {depth : Nat}
    (h : w.Quiet "\t" isKey plain (depth + 1) lines) :
    (FileParts.goDecodeMain w).Quiet "\t" isKey plain (depth + 1) lines :=
  ((h.openBlock _ fun _ => by simp).line _ fun _ => by simp).closeBlock _ fun _ => by
    simp [Target.blockEnd]

/-- The beginning of a validator, up to what it decodes into. -/
theorem Quiet.goDecodeRaw {isKey : List Char → Bool} {depth : Nat}
    (h : w.Quiet "\t" isKey plain (depth + 1) lines) {ident : String}
    (ht : plain → '\n' ∉ ident.toList) :
    (((((((w.line "raw, err := decodeRaw(buffer)").openBlock "if err != nil \x7b").line
      "return err").closeBlock Target.blockEnd).line "_ = raw").line
      ("type internal " ++ ident)).line "var main internal").Quiet "\t" isKey plain (depth + 1)
      lines := by
  have raw := h.line "raw, err := decodeRaw(buffer)" fun _ => by simp
  have failure := ((raw.openBlock "if err != nil \x7b" fun _ => by simp).line "return err"
    fun _ => by simp).closeBlock Target.blockEnd fun _ => by simp [Target.blockEnd]
  exact ((failure.line "_ = raw" fun _ => by simp).line ("type internal " ++ ident)
    fun hp => by simp [ht hp]).line "var main internal" fun _ => by simp

/-- A method starts on the lines of its header, more than one if its identifier has line feeds. -/
theorem Shows.goMethodStart (h : w.Shows "\t" 0 lines) (ident : String) (plain : Prop) :
    (FileParts.goMethodStart w ident).Quiet "\t" isMethodLine plain 1
      (lines ++ splitOn '\n' (methodHeader ident).toList) := by
  have start := h.openBlock (methodHeader ident)
  rw [indented_zero] at start
  exact start.quiet atMargin_isMethodLine plain

theorem Quiet.goMethodEnd {ident : String}
    (h : w.Quiet "\t" isMethodLine plain 1 (lines ++ splitOn '\n' (methodHeader ident).toList))
    (ht : plain → '\n' ∉ ident.toList) :
    ∃ added, (FileParts.goMethodEnd w ident).Shows "\t" 0 (lines ++ added) ∧
      splitOn '\n' (methodHeader ident).toList <:+: added ∧
      (plain → added.filter isMethodLine = [(methodHeader ident).toList]) := by
  obtain ⟨-, body, shows, none⟩ :=
    (h.line ("*object = " ++ ident ++ "(main)") fun hp => by simp [ht hp]).line
      "return nil" fun _ => by simp
  have done := shows.closeBlock Target.blockEnd
  rw [List.append_assoc, List.append_assoc] at done
  refine ⟨_, done, (List.prefix_append _ _).isInfix, fun hp => ?_⟩
  have last : (splitOn '\n' (indented "\t" 0 Target.blockEnd.toList)).filter isMethodLine = [] := by
    decide
  rw [List.filter_append, List.filter_append, none hp, last,
    splitOn_of_not_mem (newline_not_mem_methodHeader (ht hp)),
    List.filter_cons_of_pos (isMethodLine_methodHeader ident)]
  rfl

/-- A method of which the body starts no other. -/
theorem Quiet.goMethod (h : w.Quiet "\t" isMethodLine plain 0 lines) {ident : String}
    (ht : plain → '\n' ∉ ident.toList) {body : CodeWriter}
    (inside : ∀ lines, (FileParts.goMethodStart w ident).Quiet "\t" isMethodLine plain 1 lines →
      body.Quiet "\t" isMethodLine plain 1 lines) :
    ∃ added, (FileParts.goMethodEnd body ident).Shows "\t" 0 (lines ++ added) ∧
      splitOn '\n' (methodHeader ident).toList <:+: added ∧
      (plain → added.filter isMethodLine = [(methodHeader ident).toList]) := by
  obtain ⟨-, front, shows, none⟩ := h
  obtain ⟨added, done, header, method⟩ :=
    (inside _ (shows.goMethodStart ident plain)).goMethodEnd ht
  rw [List.append_assoc] at done
  refine ⟨_, done, header.trans (List.suffix_append _ _).isInfix, fun hp => ?_⟩
  rw [List.filter_append, none hp, method hp, List.nil_append]

theorem Quiet.goValidator (h : w.Quiet "\t" isMethodLine plain 0 lines) {ident : String}
    (ht : plain → '\n' ∉ ident.toList) (validation : String) :
    ∃ added, (FileParts.goValidator w ident validation).Shows "\t" 0 (lines ++ added) ∧
      splitOn '\n' (methodHeader ident).toList <:+: added ∧
      (plain → added.filter isMethodLine = [(methodHeader ident).toList]) := by
  refine h.newline.goMethod ht fun lines start => ?_
  exact (start.goDecodeRaw ht).goDecodeMain.embed validation fun _ line _ =>
    atMargin_isMethodLine.indented 0 line

theorem Quiet.goEnum (h : w.Quiet "\t" isMethodLine plain 0 lines) {ident : String}
    {members : List (String × String)} (ht : plain → '\n' ∉ ident.toList)
    (hm : plain → ∀ member ∈ members, '\n' ∉ member.1.toList) :
    ∃ added, (FileParts.goEnum w ident members).Shows "\t" 0 (lines ++ added) ∧
      splitOn '\n' (methodHeader ident).toList <:+: added ∧
      (plain → added.filter isMethodLine = [(methodHeader ident).toList]) := by
  have declared := (h.separate.next ("type " ++ ident ++ " string") (fun hp => by simp [ht hp])
    fun _ => by simp [isMethodLine, List.isPrefixOf]).newline
  have opened := (declared.next "const (" (fun _ => by simp)
    fun _ => by simp [isMethodLine, List.isPrefixOf]).indent
  have constants := opened.eachLine
    (fun member : String × String => ident ++ member.1 ++ " " ++ ident ++ " = " ++ quote member.2)
    members fun hp member hmem => by simp [ht hp, hm hp member hmem, newline_not_mem_quote]
  have closed := (constants.dedent.next ")" (fun _ => by simp)
    fun _ => by simp [isMethodLine, List.isPrefixOf]).newline
  have values := (closed.next ("var enumValues" ++ ident ++ " = []string\x7b" ++
      FileParts.literalList (members.map Prod.snd) ++ "\x7d")
    (fun hp => by simp [ht hp, newline_not_mem_literalList])
    fun _ => by simp [isMethodLine, List.isPrefixOf]).newline
  refine values.goMethod ht fun lines start => ?_
  have decoded := (start.line "var main string" fun _ => by simp).goDecodeMain
  refine decoded.enumFailure .go fun hp argument ha => ?_
  rcases List.mem_pair.mp ha with rfl | rfl <;> simp [ht hp]

end CodeWriter

/-- Nothing that an item declares reaches over the end of its line or looks like a method. -/
def FileItem.IsPlain : FileItem → Prop
  | .enumeration ident values => '\n' ∉ ident.toList ∧ ∀ value ∈ values, '\n' ∉ value.toList
  | .type ident declaration _ _ =>
    '\n' ∉ ident.toList ∧ ∀ line ∈ textLines declaration.toList, line.head? ≠ some 'f'

namespace SourceDraft

open CodeWriter

variable {draft result : SourceDraft}

/-- In Go an item with a validator is one method among the declarations. -/
theorem addItem_declarations {item : FileItem} {lines : List (List Char)}
    (ht : draft.file.target = .go) (hs : draft.file.declarations.Shows "\t" 0 lines)
    (h : draft.addItem .go item = .ok result) :
    result.file.target = .go ∧
      ∃ added, result.file.declarations.Shows "\t" 0 (lines ++ added) ∧
        (∀ ident ∈ validatorIdents [item], splitOn '\n' (methodHeader ident).toList <:+: added) ∧
        (item.IsPlain → added.filter isMethodLine =
          (validatorIdents [item]).map fun ident => (methodHeader ident).toList) := by
  have start := hs.quiet atMargin_isMethodLine item.IsPlain
  cases item with
  | enumeration ident values =>
    obtain ⟨file, hf, rfl⟩ := exists_of_map_eq_ok h
    obtain ⟨members, hm, rfl⟩ := exists_of_map_eq_ok hf
    have names : FileItem.IsPlain (.enumeration ident values) →
        ∀ member ∈ members, '\n' ∉ member.1.toList := by
      rintro ⟨-, plain⟩ member hmem
      rw [enumMembers_eq hm] at hmem
      obtain ⟨value, hv, rfl⟩ := List.mem_map.mp hmem
      exact newline_not_mem_renderName (plain value hv)
    obtain ⟨added, done, header, method⟩ := start.goEnum And.left names
    simp only [FileParts.addExport, ht]
    exact ⟨trivial, added, done, List.forall_mem_singleton.mpr header, method⟩
  | type ident declaration patterns checks =>
    cases Except.ok.inj h
    obtain ⟨target, same, -⟩ := FileParts.addPatterns_frame
      (draft.file.addExport ident) draft.patterns patterns
    have target := target.trans ht
    have same : (FileParts.addPatterns (draft.file.addExport ident) draft.patterns
      patterns).declarations = draft.file.declarations := same
    have declared := start.separate.embed (declaration) fun hp line hl => by
      simpa using not_isMethodLine_of_head? (hp.2 line hl)
    cases checks with
    | none =>
      obtain ⟨-, added, done, none⟩ := declared
      refine ⟨by simpa [FileParts.addType] using target, added, ?_, by simp [validatorIdents,
        FileItem.hasValidator], none⟩
      simpa [FileParts.addType, same] using done
    | some checks =>
      obtain ⟨added, done, header, method⟩ :=
        declared.goValidator And.left (validatorText .go checks)
      refine ⟨by simp [FileParts.addType, target], added, ?_,
        List.forall_mem_singleton.mpr header, method⟩
      simpa [FileParts.addType, target, same] using done

theorem addItems_declarations {items : List FileItem} {lines : List (List Char)}
    (ht : draft.file.target = .go) (hs : draft.file.declarations.Shows "\t" 0 lines)
    (h : draft.addItems .go items = .ok result) :
    result.file.target = .go ∧
      ∃ added, result.file.declarations.Shows "\t" 0 (lines ++ added) ∧
        (∀ ident ∈ validatorIdents items, splitOn '\n' (methodHeader ident).toList <:+: added) ∧
        ((∀ item ∈ items, item.IsPlain) → added.filter isMethodLine =
          (validatorIdents items).map fun ident => (methodHeader ident).toList) := by
  induction items generalizing draft lines with
  | nil =>
    cases Except.ok.inj h
    exact ⟨ht, [], by rwa [List.append_nil], by simp [validatorIdents], fun _ => rfl⟩
  | cons item rest ih =>
    rw [addItems] at h
    split at h
    next => cases h
    next between hb =>
      obtain ⟨target, first, hfirst, here, keys⟩ := addItem_declarations ht hs hb
      obtain ⟨target, more, hmore, there, others⟩ := ih target hfirst h
      rw [List.append_assoc] at hmore
      refine ⟨target, _, hmore, fun ident hi => ?_, fun plain => ?_⟩
      · rw [validatorIdents_cons] at hi
        rcases List.mem_append.mp hi with hi | hi
        · exact (here ident hi).trans (List.prefix_append _ _).isInfix
        · exact (there ident hi).trans (List.suffix_append _ _).isInfix
      · obtain ⟨hp, hr⟩ := List.forall_mem_cons.mp plain
        rw [List.filter_append, keys hp, others hr, validatorIdents_cons item rest,
          List.map_append]

end SourceDraft

open CodeWriter

/-- What comes before the sections of a file. -/
def goHead (file : FileParts) (modulePath : String) : CodeWriter :=
  let w := ((CodeWriter.line { tab := file.target.tab } FileParts.notice).newline).line
    ("package " ++ FileParts.packageName modulePath)
  let w := w.newline.openBlock "import ("
  let w := ["encoding/json", "fmt", "math", "reflect", "regexp"].foldl
    (fun w path => w.line (quote path)) w
  ((w.closeBlock ")").newline).embed goSupport

theorem continues_goHead (file : FileParts) (modulePath : String) :
    CodeWriter.Continues { tab := file.target.tab } (goHead file modulePath) := by
  have package := (((continues_line { tab := file.target.tab } FileParts.notice).trans
    (continues_newline _)).trans
      (continues_line _ ("package " ++ FileParts.packageName modulePath))).trans
        (continues_newline _)
  have imports (w : CodeWriter) := (continues_lines (w.openBlock "import (") quote
    ["encoding/json", "fmt", "math", "reflect", "regexp"]).block ")"
  exact package.trans (((imports _).trans (continues_newline _)).trans
    (continues_embed _ goSupport))

/-- The declarations are the last section of a file. -/
theorem FileParts.goFile_declarations (file : FileParts) (modulePath : String) :
    ∃ before, (file.goFile modulePath).text.toList =
      before ++ joinLines (textLines file.declarations.text.toList) := by
  have head := (continues_goHead file modulePath).trans (continues_writeSection _ file.globals)
  exact writeSection_toList file.declarations head.depth_eq

theorem EmissionContext.EmitsItem.isPlain {context : EmissionContext} {next : Nat}
    {entry : TypeEntry} {item : FileItem} (h : context.EmitsItem next entry item)
    (ht : context.target = .go) (names : context.table.NamesOnOneLine)
    (hm : entry ∈ context.table.entries) : item.IsPlain := by
  have ident := names.ident entry hm
  cases h with
  | enumeration hn =>
    refine ⟨ident, fun value hv => names.name entry hm entry.node .here value ?_⟩
    rw [hn]
    exact hv
  | type hn he =>
    let current := { context with current := entry.name }
    obtain ⟨more, begins⟩ := context.begins_declaration ht entry (emit current next entry.node)
    have others := @head?_declaration current next _ ht names.ident entry ident
      (names.name entry hm) he.outcome 'f' (by decide)
    refine ⟨ident, fun line hl hc => ?_⟩
    cases hs : textLines (context.declaration entry (emit current next entry.node)).toList with
    | nil => exact List.not_mem_nil (hs ▸ hl)
    | cons first rest =>
      rcases List.mem_cons.mp (hs ▸ hl) with rfl | hr
      · have typed := head?_of_textLines hs hc
        simp [← begins] at typed
      · exact others (hs ▸ hr) hc

/-- The section of a file in which the methods stand. -/
theorem TypeTable.Renders.methods {table : TypeTable} {modulePath text : String}
    {validated : List String} {items : List FileItem} {file : FileParts}
    (h : table.Renders .go modulePath text validated items file) :
    ∃ before rows, text.toList = before ++ joinLines rows ∧ (∀ row ∈ rows, '\n' ∉ row) ∧
      (∀ ident ∈ validatorIdents items,
        textLines ((methodHeader ident).toList ++ ['\n']) <:+: rows) ∧
      (table.NamesOnOneLine → rows.filter isMethodLine =
        (validatorIdents items).map fun ident => (methodHeader ident).toList) := by
  obtain ⟨count, written⟩ := h.written
  have start : (FileParts.empty .go).declarations.Shows "\t" 0 [] :=
    ⟨rfl, by decide, rfl, rfl, rfl, by simp⟩
  obtain ⟨target, lines, shows, headers, keys⟩ :=
    SourceDraft.addItems_declarations rfl start written
  rw [List.nil_append] at shows
  obtain ⟨before, placed⟩ := file.goFile_declarations modulePath
  rw [shows.text_eq, textLines_joinLines shows.plain] at placed
  refine ⟨before, lines.map trimmedLine, ?_, ?_, ?_, ?_⟩
  · rw [h.text_eq, FileParts.assemble, target, placed]
  · intro row hr
    rw [← textLines_joinLines shows.plain] at hr
    exact newline_not_mem_textLines hr
  · intro ident hi
    rw [← joinLines_splitOn, textLines_joinLines fun _ => not_mem_of_mem_splitOn]
    exact (headers ident hi).map trimmedLine
  · intro names
    have plain : ∀ item ∈ items, item.IsPlain := by
      intro item hmem
      obtain ⟨next, entry, he, hitem⟩ := h.emits.exists_entry hmem
      exact hitem.isPlain rfl names (mem_sortedEntries.mp he)
    have same : isMethodLine ∘ trimmedLine = isMethodLine :=
      funext fun line => isPrefixOf_trimmedLine (by decide) line
    rw [List.filter_map, same, keys plain, List.map_map, List.map_inj_left]
    intro ident _
    exact trimmedLine_methodHeader ident

end CheckedTypes
