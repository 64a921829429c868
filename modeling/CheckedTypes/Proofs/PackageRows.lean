import CheckedTypes.Proofs.PackageNames
import CheckedTypes.Proofs.PatternDeclaration

namespace CheckedTypes

open CodeWriter

namespace CodeWriter

/-- The rows that a writer has written up to now declare these names. -/
def Declares (w : CodeWriter) (names : List String) : Prop :=
  ∃ rows, w.Shows "\t" 0 rows ∧ Reads rows names

/-- A row that a reader of names takes notice of. -/
def isLoud (row : List Char) : Bool :=
  !isSilent row

theorem atMargin_isLoud : AtMargin "\t" isLoud := by
  constructor
  · decide
  · intro line
    have inner : isSilent ("\t".toList ++ line) = true := by
      refine isSilent_of_head? fun c letter hc => ?_
      rw [← Option.some.inj hc] at letter
      exact absurd letter (by decide)
    rw [isLoud, inner]
    rfl

variable {w after : CodeWriter} {names : List String} {lines : List (List Char)}

theorem declares_empty : Declares { tab := "\t" } [] :=
  ⟨[], shows_empty .go, .nil⟩

/-- What comes in rows that nothing is read from does not change what is declared. -/
theorem Declares.quiet (h : w.Declares names)
    (step : ∀ rows, w.Quiet "\t" isLoud True 0 rows → after.Quiet "\t" isLoud True 0 rows) :
    after.Declares names := by
  obtain ⟨rows, shows, reads⟩ := h
  obtain ⟨-, added, shown, none⟩ := step rows (shows.quiet atMargin_isLoud True)
  have silent : Reads added [] := by
    refine .silent fun row hm => ?_
    have := List.filter_eq_nil_iff.mp (none trivial) row hm
    simpa [isLoud] using this
  exact ⟨_, shown, by simpa using reads.append silent⟩

theorem Declares.separate (h : w.Declares names) : w.separate.Declares names :=
  h.quiet fun _ => Quiet.separate

theorem Declares.newline (h : w.Declares names) : w.newline.Declares names :=
  h.quiet fun _ => Quiet.newline

theorem Declares.line (h : w.Declares names) (text : String) (plain : '\n' ∉ text.toList)
    (alone : opensGroup text.toList = false) :
    (w.line text).Declares (names ++ (declaredName? text.toList).toList) := by
  obtain ⟨rows, shows, reads⟩ := h
  have shown := shows.line text
  rw [indented_zero, splitOn_of_not_mem plain] at shown
  exact ⟨_, shown, reads.append (.of_row alone)⟩

theorem Shows.eachLine {tab : String} {depth : Nat} {α : Type}
    (h : w.Shows tab depth lines) (text : α → String) {list : List α}
    (plain : ∀ entry ∈ list, '\n' ∉ (text entry).toList) :
    (list.foldl (fun w entry => w.line (text entry)) w).Shows tab depth
      (lines ++ list.map fun entry => indented tab depth (text entry).toList) := by
  induction list generalizing w lines with
  | nil => simpa using h
  | cons entry rest ih =>
    obtain ⟨first, plain⟩ := List.forall_mem_cons.mp plain
    have shown := h.line (text entry)
    rw [splitOn_of_not_mem (newline_not_mem_indented h.tab_plain first)] at shown
    have others := ih shown plain
    rwa [List.append_assoc] at others

/-- A group of constants declares them all. -/
theorem Declares.group (h : w.Declares names) {α : Type} (text name rest : α → String)
    (shape : ∀ entry, (text entry).toList = (name entry).toList ++ ' ' :: (rest entry).toList)
    {list : List α} (words : ∀ entry ∈ list, IsWord (name entry))
    (plain : ∀ entry ∈ list, '\n' ∉ (rest entry).toList) :
    ((list.foldl (fun w entry => w.line (text entry)) (w.openBlock "const (")).closeBlock
      ")").Declares (names ++ list.map name) := by
  obtain ⟨rows, shows, reads⟩ := h
  let row (entry : α) : List Char := indented "\t" 1 (text entry).toList
  have row_eq (entry : α) :
      row entry = "\t".toList ++ ((name entry).toList ++ ' ' :: (rest entry).toList) := by
    simp [row, shape, indented]
  have lines : ∀ entry ∈ list, '\n' ∉ (text entry).toList := by
    intro entry hm
    simp [shape, (words entry hm).no_newline, plain entry hm]
  have shown := ((shows.openBlock "const (").eachLine text lines).closeBlock ")"
  have opened : splitOn '\n' (indented "\t" 0 "const (".toList) = ["const (".toList] := by decide
  have closed : splitOn '\n' (indented "\t" 0 ")".toList) = [")".toList] := by decide
  rw [opened, closed, List.append_assoc, List.append_assoc] at shown
  have constants : Reads ("const (".toList :: (list.map row ++ [")".toList])) (list.map name) := by
    refine .group (fun entry _ => ?_) (fun entry hm => ?_)
    · rw [row_eq]
      exact List.isPrefixOf_iff_prefix.mpr (List.prefix_append _ _)
    · rw [row_eq]
      exact nameAfter?_append (words entry hm).no_blank (words entry hm).nonempty _
  exact ⟨_, shown, reads.append constants⟩

/-- A method declares nothing for the package. -/
theorem Declares.method (h : w.Declares names) (ident : String) (plain : '\n' ∉ ident.toList)
    {body : CodeWriter}
    (inside : ∀ lines, (FileParts.goMethodStart w ident).Quiet "\t" isLoud True 1 lines →
      body.Quiet "\t" isLoud True 1 lines) :
    (FileParts.goMethodEnd body ident).Declares names := by
  have header : isLoud (indented "\t" 0 (methodHeader ident).toList) = false := by
    simp [isLoud, isSilent, opensGroup, declaredName?, nameAfter?, methodHeader, List.isPrefixOf,
      before?]
  refine h.quiet fun lines quiet => ?_
  have start : (FileParts.goMethodStart w ident).Quiet "\t" isLoud True 1 lines :=
    (quiet.next (methodHeader ident) (fun _ => newline_not_mem_methodHeader plain)
      fun _ => header).indent
  have converted := ((inside lines start).line ("*object = " ++ ident ++ "(main)")
    fun _ => by simp [plain]).line "return nil" fun _ => by simp
  exact converted.dedent.next Target.blockEnd (fun _ => by simp [Target.blockEnd])
    fun _ => by decide

theorem Declares.goValidator (h : w.Declares names) {ident : String} (plain : '\n' ∉ ident.toList)
    (validation : String) : (FileParts.goValidator w ident validation).Declares names := by
  refine h.newline.method ident plain fun lines start => ?_
  exact (start.goDecodeRaw fun _ => plain).goDecodeMain.embed validation fun _ line _ =>
    atMargin_isLoud.indented 0 line

/-- An enumeration declares a type, its constants and the list of its values. -/
theorem Declares.goEnum (h : w.Declares names) {ident : String}
    (members : List (String × String)) (word : IsWord ident)
    (constants : ∀ member ∈ members, IsWord (ident ++ member.1)) :
    (FileParts.goEnum w ident members).Declares (names ++ ident ::
      (members.map (fun member => ident ++ member.1) ++ ["enumValues" ++ ident])) := by
  let typeLine := "type " ++ ident ++ " string"
  let valuesLine := "var enumValues" ++ ident ++ " = []string\x7b" ++
    FileParts.literalList (members.map Prod.snd) ++ "\x7d"
  have named : declaredName? typeLine.toList = some ident := by
    simpa [typeLine] using declaredName?_type word "string".toList
  have listed : IsWord ("enumValues" ++ ident) :=
    ⟨by simp, by simp [word.no_blank], by simp [word.no_newline]⟩
  have valued : declaredName? valuesLine.toList = some ("enumValues" ++ ident) := by
    simpa [valuesLine] using declaredName?_var listed
      ("= []string\x7b" ++ FileParts.literalList (members.map Prod.snd) ++ "\x7d").toList
  have type := (h.separate.line typeLine (by simp [typeLine, word.no_newline])
    (by simp [typeLine, opensGroup, List.isPrefixOf])).newline
  have group := (type.group
    (fun member : String × String => ident ++ member.1 ++ " " ++ ident ++ " = " ++ quote member.2)
    (fun member => ident ++ member.1) (fun member => ident ++ " = " ++ quote member.2)
    (fun member => by simp) constants
    fun member _ => by simp [word.no_newline, newline_not_mem_quote]).newline
  have values := (group.line valuesLine
    (by simp [valuesLine, word.no_newline, newline_not_mem_literalList])
    (by simp [valuesLine, opensGroup, List.isPrefixOf])).newline
  have arguments : ∀ argument ∈ ["&main", "enumValues" ++ ident], '\n' ∉ argument.toList := by
    simp [word.no_newline]
  have all := values.method ident word.no_newline fun lines start =>
    ((start.line "var main string" fun _ => by simp).goDecodeMain).enumFailure .go
      fun _ => arguments
  rw [named, valued, List.append_assoc, List.append_assoc] at all
  exact all

theorem Declares.embed (h : w.Declares names) {text : String} {more : List String}
    (reads : Reads (textLines text.toList) more) : (w.embed text).Declares (names ++ more) := by
  obtain ⟨rows, shows, before⟩ := h
  have shown := shows.embed text
  have same : indented "\t" 0 = id := funext fun line => indented_zero _ line
  rw [same, List.map_id] at shown
  exact ⟨_, shown, before.append reads⟩

/-- A section of a file declares what has been written for it. -/
theorem Declares.writeSection (h : w.Declares names) {part : CodeWriter} {more : List String}
    (hp : part.Declares more) : (FileParts.writeSection w part).Declares (names ++ more) := by
  obtain ⟨rows, shows, reads⟩ := hp
  unfold FileParts.writeSection
  split
  next empty =>
    have blank : part.text = "" := by simpa [CodeWriter.isEmpty] using empty
    have none : rows = [] := by
      have := shows.text_eq
      cases rows with
      | nil => rfl
      | cons row rows => simp [blank] at this
    have nothing : more = [] := by
      have := reads []
      simpa [none, readNames] using this
    rwa [nothing, List.append_nil]
  next =>
    refine h.newline.embed ?_
    rw [shows.text_eq, textLines_joinLines shows.plain]
    exact reads.trimmed

end CodeWriter

theorem textLines_of_not_mem {line : List Char} (h : '\n' ∉ line) (some_char : line ≠ []) :
    textLines line = [line] := by
  induction line with
  | nil => exact absurd rfl some_char
  | cons c rest ih =>
    obtain ⟨hc, hr⟩ := List.ne_and_not_mem_of_not_mem_cons h
    cases rest with
    | nil => simp [textLines, hc.symm]
    | cons d rest =>
      rw [textLines, ih hr (List.cons_ne_nil d rest)]
      · rintro more - he
        exact hr (he ▸ List.mem_cons_self)
      · exact hc.symm

/-- Lines between line feeds are the lines of the whole. -/
theorem textLines_intercalate {lines : List String}
    (plain : ∀ row ∈ lines.map String.toList, '\n' ∉ row ∧ '\r' ∉ row)
    (last : ∀ line ∈ lines.getLast?, line ≠ "") :
    textLines ("\n".intercalate lines).toList = lines.map String.toList := by
  induction lines with
  | nil => rfl
  | cons line rest ih =>
    obtain ⟨⟨newline, carriage⟩, others⟩ := List.forall_mem_cons.mp plain
    cases rest with
    | nil =>
      have some_char : line ≠ "" := last line rfl
      simpa using textLines_of_not_mem newline (by simpa using some_char)
    | cons next rest =>
      have whole : trimmedLine line.toList = line.toList := by
        simpa [trimmedLine] using trimmedLine_append carriage []
      have split : ("\n".intercalate (line :: next :: rest)).toList =
          line.toList ++ '\n' :: ("\n".intercalate (next :: rest)).toList := by
        simp [String.intercalate_cons_cons]
      rw [split, textLines_line_append newline, whole, ih others fun other ho => last other ho]
      rfl

/-- Rows that declare these names and have no line ends. -/
structure Spelled (rows : List (List Char)) (names : List String) : Prop where
  reads : Reads rows names
  plain : ∀ row ∈ rows, '\n' ∉ row ∧ '\r' ∉ row

namespace Spelled

variable {chars more : List Char} {rows : List (List Char)} {name : String} {names : List String}

theorem nil : Spelled [] [] :=
  ⟨.nil, by simp⟩

theorem silent (h : isSilent chars = true ∧ '\n' ∉ chars ∧ '\r' ∉ chars)
    (rest : Spelled rows names) : Spelled ((String.ofList chars).toList :: rows) names := by
  rw [String.toList_ofList]
  have alone : Reads [chars] [] := .silent (List.forall_mem_singleton.mpr h.1)
  exact ⟨alone.append rest.reads, List.forall_mem_cons.mpr ⟨h.2, rest.plain⟩⟩

theorem named (h : declaredName? chars = some name ∧ opensGroup chars = false ∧
      '\n' ∉ chars ∧ '\r' ∉ chars) (rest : Spelled rows names) :
    Spelled ((String.ofList chars).toList :: rows) (name :: names) := by
  obtain ⟨declared, group, plain⟩ := h
  rw [String.toList_ofList]
  have alone : Reads [chars] (declaredName? chars).toList := .of_row group
  rw [declared] at alone
  exact ⟨alone.append rest.reads, List.forall_mem_cons.mpr ⟨plain, rest.plain⟩⟩

theorem joined (h : Spelled ((String.ofList (chars ++ more)).toList :: rows) names) :
    Spelled (((String.ofList chars).toList ++ (String.ofList more).toList) :: rows) names := by
  simp only [String.toList_ofList] at h ⊢
  exact h

end Spelled

/-- The names that every Go file declares for the package before its own. -/
def supportNames : List String :=
  ["null", "ValidationError", "validationError", "decodeRaw", "rawHas", "boundsValidation",
    "IntegerValidation", "NumberValidation", "StringValidation", "PatternValidation",
    "ArrayValidation", "EnumValidation"]

set_option maxRecDepth 4000 in
theorem spelled_goSupportLines : Spelled (goSupportLines.map String.toList) supportNames := by
  simp only [goSupportLines, supportNames, List.map_cons, List.map_nil, String.toList_append]
  repeat' with_reducible first
    | refine .silent (by decide +kernel) ?_
    | refine .named (by decide +kernel) ?_
    | refine .joined ?_
  exact .nil

theorem reads_goSupport : Reads (textLines goSupport.toList) supportNames := by
  have lines := textLines_intercalate spelled_goSupportLines.plain fun line hl => by
    cases hl
    decide
  rw [goSupport, lines]
  exact spelled_goSupportLines.reads

theorem newline_not_mem_packageName {modulePath : String} (h : '\n' ∉ modulePath.toList) :
    '\n' ∉ (FileParts.packageName modulePath).toList := by
  unfold FileParts.packageName
  dsimp only
  split
  next => decide
  next =>
    rw [String.toList_ofList]
    intro hm
    obtain ⟨c, hc, he⟩ := List.mem_map.mp hm
    split at he
    next => cases he
    next =>
      subst he
      cases hs : (splitOn '/' modulePath.toList).getLast? with
      | none => simp [hs] at hc
      | some part =>
        rw [hs, Option.getD_some] at hc
        exact h (mem_of_mem_splitOn (List.mem_of_getLast? hs) hc).2

theorem declares_goHead {file : FileParts} (ht : file.target = .go) {modulePath : String}
    (plain : '\n' ∉ modulePath.toList) : (goHead file modulePath).Declares supportNames := by
  have package : '\n' ∉ ("package " ++ FileParts.packageName modulePath).toList := by
    simp [newline_not_mem_packageName plain]
  have start : CodeWriter.Declares { tab := file.target.tab } [] := ht ▸ declares_empty
  refine @Declares.embed _ [] (start.quiet fun rows quiet => ?_) _ _ reads_goSupport
  have first := (quiet.next FileParts.notice (fun _ => by decide) fun _ => by decide).newline
  have named := (first.next _ (fun _ => package) fun _ => by
    simp [isLoud, isSilent, opensGroup, declaredName?, nameAfter?, List.isPrefixOf]).newline
  have opened := (named.next "import (" (fun _ => by decide) fun _ => by decide).indent
  have imports := opened.eachLine quote
    ["encoding/json", "fmt", "math", "reflect", "regexp"] fun _ path _ => newline_not_mem_quote path
  exact (imports.dedent.next ")" (fun _ => by decide) fun _ => by decide).newline

end CheckedTypes
