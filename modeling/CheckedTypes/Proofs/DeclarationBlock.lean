import CheckedTypes.Proofs.WrittenMethods

namespace CheckedTypes

/-- Texts one after the other, each behind a blank line unless nothing comes before it. -/
def joinBlocks (blocks : List (List Char)) : List Char :=
  blocks.foldl (fun text block => if text = [] then block else text ++ '\n' :: block) []

/-- The line that declares an enumeration. -/
def Target.enumHeader : Target → (ident : String) → String
  | go, ident => "type " ++ ident ++ " string"
  | typescript, ident => "export enum " ++ ident ++ " \x7b"

/-- What an item begins with among the declarations. -/
def FileItem.declared (target : Target) : FileItem → List Char
  | .enumeration ident _ => joinLines [(target.enumHeader ident).toList]
  | .type _ declaration _ _ => joinLines (textLines declaration.toList)

namespace CodeWriter

/-- A writer is about to begin a line that is not indented. -/
structure AtStart (w : CodeWriter) : Prop where
  atLineStart : w.atLineStart = true
  depth_eq : w.depth = 0

variable {w after : CodeWriter}

theorem Continues.atStart (h : w.Continues after) (start : w.AtStart)
    (ends : after.atLineStart = true) : after.AtStart :=
  ⟨ends, h.depth_eq.trans start.depth_eq⟩

theorem continues_separate (w : CodeWriter) : w.Continues w.separate := by
  unfold separate
  split
  next => exact .refl w
  next => exact continues_newline w

theorem AtStart.separate (h : w.AtStart) : w.separate.AtStart := by
  refine (continues_separate w).atStart h ?_
  unfold CodeWriter.separate
  split
  next => exact h.atLineStart
  next => rfl

theorem AtStart.line_toList (h : w.AtStart) (text : String) :
    (w.line text).text.toList = w.text.toList ++ joinLines [text.toList] := by
  rw [CodeWriter.line_toList h.atLineStart, h.depth_eq, indented_zero]

theorem AtStart.embed_toList (h : w.AtStart) (text : String) :
    (w.embed text).text.toList = w.text.toList ++ joinLines (textLines text.toList) := by
  have same : indented w.tab w.depth = id := by
    funext line
    rw [h.depth_eq]
    exact indented_zero _ _
  rw [CodeWriter.embed_toList h.atLineStart, same, List.map_id]

/-- Behind the text before it and a blank line comes a block that begins with `first`. -/
def AddsBlock (w : CodeWriter) (first : List Char) (after : CodeWriter) : Prop :=
  after.AtStart ∧ ∃ block, first <+: block ∧ after.text.toList =
    if w.text.toList = [] then block else w.text.toList ++ '\n' :: block

theorem addsBlock_of_begins {first : List Char}
    (begins : w.separate.text.toList ++ first <+: after.text.toList) (start : after.AtStart) :
    w.AddsBlock first after := by
  obtain ⟨more, hm⟩ := begins
  refine ⟨start, first ++ more, List.prefix_append _ _, ?_⟩
  rw [← hm]
  unfold CodeWriter.separate CodeWriter.isEmpty
  by_cases he : w.text = ""
  · simp [he]
  · simp [he, newline]

theorem AtStart.addsBlock_line (h : w.AtStart) {header : String}
    (more : (w.separate.line header).Continues after) (ends : after.atLineStart = true) :
    w.AddsBlock (joinLines [header.toList]) after := by
  refine addsBlock_of_begins ?_ (((continues_line _ _).trans more).atStart h.separate ends)
  rw [← h.separate.line_toList]
  exact more.begins

theorem AtStart.addsBlock_embed (h : w.AtStart) {text : String}
    (more : (w.separate.embed text).Continues after) (ends : after.atLineStart = true) :
    w.AddsBlock (joinLines (textLines text.toList)) after := by
  refine addsBlock_of_begins ?_ (((continues_embed _ _).trans more).atStart h.separate ends)
  rw [← h.separate.embed_toList]
  exact more.begins

theorem continues_goDecodeMain (w : CodeWriter) : w.Continues (FileParts.goDecodeMain w) :=
  (continues_line _ _).block _

theorem continues_enumFailure (w : CodeWriter) (target : Target) (arguments : List String) :
    w.Continues (FileParts.enumFailure w target arguments) :=
  (continues_line _ _).block _

/-- A method is at the depth of what comes before it. -/
theorem continues_goMethod {ident : String} {body : CodeWriter}
    (h : (FileParts.goMethodStart w ident).Continues body) :
    w.Continues (FileParts.goMethodEnd body ident) :=
  (h.trans ((continues_line _ _).trans (continues_line _ _))).block _

theorem continues_goValidator (w : CodeWriter) (ident validation : String) :
    w.Continues (FileParts.goValidator w ident validation) := by
  refine (continues_newline w).trans (continues_goMethod ?_)
  have raw (w : CodeWriter) : w.Continues (((w.line "raw, err := decodeRaw(buffer)").openBlock
      "if err != nil \x7b").line "return err" |>.closeBlock Target.blockEnd) :=
    (continues_line _ _).trans ((continues_line _ _).block _)
  have places (w : CodeWriter) := ((continues_line w "_ = raw").trans
    (continues_line _ ("type internal " ++ ident))).trans (continues_line _ "var main internal")
  exact (((raw _).trans (places _)).trans (continues_goDecodeMain _)).trans (continues_embed _ _)

theorem continues_goEnum (w : CodeWriter) (ident : String) (members : List (String × String)) :
    (w.separate.line (Target.go.enumHeader ident)).Continues
      (FileParts.goEnum w ident members) := by
  have constants (w : CodeWriter) := ((continues_lines (w.openBlock "const (")
    (fun member : String × String => ident ++ member.1 ++ " " ++ ident ++ " = " ++ quote member.2)
    members).block ")").trans (continues_newline _)
  have values (w : CodeWriter) := (continues_line w ("var enumValues" ++ ident ++
    " = []string\x7b" ++ FileParts.literalList (members.map Prod.snd) ++ "\x7d")).trans
      (continues_newline _)
  have method (w : CodeWriter) := continues_goMethod (((continues_line
    (FileParts.goMethodStart w ident) "var main string").trans (continues_goDecodeMain _)).trans
      (continues_enumFailure _ .go ["&main", "enumValues" ++ ident]))
  exact (((continues_newline _).trans (constants _)).trans (values _)).trans (method _)

theorem continues_typeScriptEnum (w : CodeWriter) (ident : String)
    (members : List (String × String)) :
    (w.separate.line (Target.typescript.enumHeader ident)).Continues
      (FileParts.typeScriptEnum w ident members) :=
  Continues.closeBlock (continues_lines _ (fun member : String × String =>
    (if FileParts.isPlainMember member.1 then member.1 else quote member.1) ++ " = " ++
      quote member.2 ++ ",") members) _

end CodeWriter

namespace SourceDraft

open CodeWriter

variable {draft result : SourceDraft} {target : Target}

/-- An item is one block of the declarations. -/
theorem addItem_addsBlock {item : FileItem} (ht : draft.file.target = target)
    (start : draft.file.declarations.AtStart) (h : draft.addItem target item = .ok result) :
    result.file.target = target ∧
      draft.file.declarations.AddsBlock (item.declared target) result.file.declarations := by
  cases item with
  | enumeration ident values =>
    obtain ⟨file, hf, rfl⟩ := exists_of_map_eq_ok h
    obtain ⟨members, -, rfl⟩ := exists_of_map_eq_ok hf
    simp only [FileParts.addExport, ht]
    cases target with
    | go => exact ⟨rfl, start.addsBlock_line (continues_goEnum _ ident members) rfl⟩
    | typescript =>
      exact ⟨rfl, start.addsBlock_line (continues_typeScriptEnum _ ident members) rfl⟩
  | type ident declaration patterns checks =>
    cases Except.ok.inj h
    obtain ⟨same, kept, -⟩ := FileParts.addPatterns_frame
      (draft.file.addExport ident) draft.patterns patterns
    have same := same.trans ht
    have kept : (FileParts.addPatterns (draft.file.addExport ident) draft.patterns
      patterns).declarations = draft.file.declarations := kept
    have ends := atLineStart_embed start.separate.atLineStart declaration
    have alone : draft.file.declarations.AddsBlock
        ((FileItem.type ident declaration patterns checks).declared target) _ :=
      start.addsBlock_embed (.refl _) ends
    cases checks with
    | none =>
      cases target with
      | go => exact ⟨same, by simpa only [FileParts.addType, Option.map_none, kept]⟩
      | typescript => exact ⟨same, by simpa only [FileParts.addType, Option.map_none, kept]⟩
    | some checks =>
      cases target with
      | go =>
        have method : draft.file.declarations.AddsBlock
            ((FileItem.type ident declaration patterns (some checks)).declared .go) _ :=
          start.addsBlock_embed (continues_goValidator _ ident (validatorText .go checks)) rfl
        simp only [FileParts.addType, Option.map_some, same, kept]
        exact ⟨trivial, method⟩
      | typescript =>
        simp only [FileParts.addType, Option.map_some, same, kept]
        exact ⟨trivial, alone⟩

theorem addItems_blocks {items : List FileItem} (ht : draft.file.target = target)
    (start : draft.file.declarations.AtStart) (h : draft.addItems target items = .ok result) :
    result.file.target = target ∧ ∃ blocks,
      List.Forall₂ (fun item block => item.declared target <+: block) items blocks ∧
      result.file.declarations.text.toList =
        blocks.foldl (fun text block => if text = [] then block else text ++ '\n' :: block)
          draft.file.declarations.text.toList := by
  induction items generalizing draft with
  | nil =>
    cases Except.ok.inj h
    exact ⟨ht, [], .nil, rfl⟩
  | cons item rest ih =>
    rw [addItems] at h
    split at h
    next => cases h
    next between hb =>
      obtain ⟨target, start, block, begins, text⟩ := addItem_addsBlock ht start hb
      obtain ⟨target, blocks, others, rest⟩ := ih target start h
      exact ⟨target, block :: blocks, .cons begins others, by rw [rest, text]; rfl⟩

end SourceDraft

open CodeWriter

/-- The declarations stand in the file as they are. -/
theorem FileParts.assemble_declarations (file : FileParts) (modulePath : String) :
    ∃ before after, (file.assemble modulePath).toList =
      before ++ joinLines (textLines file.declarations.text.toList) ++ after := by
  unfold assemble
  split
  next =>
    obtain ⟨before, hb⟩ := file.goFile_declarations modulePath
    exact ⟨before, [], by rw [List.append_nil, hb]⟩
  next =>
    have head := continues_typeScriptHead file modulePath
    let globals := writeSection ((((CodeWriter.line { tab := file.target.tab } notice).line
      ("// module: " ++ modulePath)).newline).embed typeScriptSupport) file.globals
    obtain ⟨before, hb⟩ := writeSection_toList (w := globals) file.declarations
      ((continues_writeSection globals file.declarations).depth_eq.symm.trans head.depth_eq)
    have table := (continues_embed ((typeScriptHead file modulePath).openBlock checkTableHeader)
      file.checks.text).block "\x7d;"
    obtain ⟨after, ha⟩ := (((continues_newline (writeSection globals file.declarations)).trans
      table).trans (continues_typeScriptFile file modulePath)).begins
    exact ⟨before, after, by rw [← ha, hb]⟩

end CheckedTypes
