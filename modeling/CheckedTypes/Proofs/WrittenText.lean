import CheckedTypes.CodeWriter
import CheckedTypes.SplitText
import Mathlib.Data.List.Basic

namespace CheckedTypes

/-- Lines that are each ended by a line feed. -/
def joinLines (lines : List (List Char)) : List Char :=
  lines.flatMap (· ++ ['\n'])

@[simp] theorem joinLines_append (lines more : List (List Char)) :
    joinLines (lines ++ more) = joinLines lines ++ joinLines more :=
  List.flatMap_append

@[simp] theorem joinLines_cons (line : List Char) (rest : List (List Char)) :
    joinLines (line :: rest) = line ++ '\n' :: joinLines rest := by
  simp [joinLines]

theorem splitOn_of_not_mem {separator : Char} {text : List Char} (h : separator ∉ text) :
    splitOn separator text = [text] := by
  induction text with
  | nil => rfl
  | cons c rest ih =>
    obtain ⟨hc, hr⟩ := List.ne_and_not_mem_of_not_mem_cons h
    rw [splitOn, if_neg (Ne.symm hc), ih hr]

/-- The parts of a text have its characters, but for the separator. -/
theorem mem_of_mem_splitOn {separator c : Char} {text part : List Char}
    (h : part ∈ splitOn separator text) (hc : c ∈ part) : c ≠ separator ∧ c ∈ text := by
  induction text generalizing part with
  | nil => simp_all [splitOn]
  | cons d rest ih =>
    have later {part : List Char} (h : part ∈ splitOn separator rest) (hc : c ∈ part) :
        c ≠ separator ∧ c ∈ d :: rest := (ih h hc).imp_right (List.mem_cons_of_mem _)
    rw [splitOn] at h
    split at h
    next =>
      rcases List.mem_cons.mp h with rfl | h
      · cases hc
      · exact later h hc
    next hd =>
      split at h
      next =>
        rw [List.mem_singleton.mp h] at hc
        cases List.mem_singleton.mp hc
        exact ⟨hd, List.mem_cons_self⟩
      next first parts hs =>
        rcases List.mem_cons.mp h with rfl | h
        · rcases List.mem_cons.mp hc with rfl | hc
          · exact ⟨hd, List.mem_cons_self⟩
          · exact later (hs ▸ List.mem_cons_self) hc
        · exact later (hs ▸ List.mem_cons_of_mem _ h) hc

theorem not_mem_of_mem_splitOn {separator : Char} {text part : List Char}
    (h : part ∈ splitOn separator text) : separator ∉ part :=
  fun hc => (mem_of_mem_splitOn h hc).1 rfl

theorem joinLines_splitOn (text : List Char) : joinLines (splitOn '\n' text) = text ++ ['\n'] := by
  induction text with
  | nil => rfl
  | cons c rest ih =>
    rw [splitOn]
    split
    next hc => rw [joinLines_cons, ih, hc]; rfl
    next =>
      split
      next hs => simp [hs, joinLines] at ih
      next part parts hs =>
        rw [hs, joinLines_cons] at ih
        rw [joinLines_cons, List.cons_append, ih]
        rfl

/-- A line without the carriage return that counts as a part of its end. -/
def trimmedLine : List Char → List Char
  | [] => []
  | ['\r'] => []
  | c :: rest => c :: trimmedLine rest

theorem trimmedLine_cons_cons (c d : Char) (line : List Char) :
    trimmedLine (c :: d :: line) = c :: trimmedLine (d :: line) := by
  rw [trimmedLine]
  simp

theorem textLines_line_append {line : List Char} (h : '\n' ∉ line) (rest : List Char) :
    textLines (line ++ '\n' :: rest) = trimmedLine line :: textLines rest := by
  induction line with
  | nil => simp [textLines, trimmedLine]
  | cons c line ih =>
    obtain ⟨hc, hl⟩ := List.ne_and_not_mem_of_not_mem_cons h
    cases line with
    | nil =>
      by_cases hr : c = '\r'
      · subst hr
        simp [textLines, trimmedLine]
      · simp [textLines, trimmedLine, Ne.symm hc, hr]
    | cons d line =>
      have hd := (List.ne_and_not_mem_of_not_mem_cons hl).1
      rw [List.cons_append, textLines, ih hl, trimmedLine_cons_cons]
      · intro _ _ he
        exact hd (List.cons.inj he).1.symm
      · exact Ne.symm hc

theorem textLines_joinLines {lines : List (List Char)} (plain : ∀ line ∈ lines, '\n' ∉ line) :
    textLines (joinLines lines) = lines.map trimmedLine := by
  induction lines with
  | nil => rfl
  | cons line rest ih =>
    obtain ⟨hl, hr⟩ := List.forall_mem_cons.mp plain
    rw [joinLines_cons, textLines_line_append hl, ih hr, List.map_cons]

/-- A text with a line feed begins with the first of its lines. -/
theorem exists_first_line {mark text : List Char} (begins : mark <+: text) (plain : '\n' ∉ mark)
    (ends : '\n' ∈ text) : ∃ more rest, textLines text = trimmedLine (mark ++ more) :: rest := by
  obtain ⟨line, rest, rfl, hl⟩ := List.eq_append_cons_of_mem ends
  obtain ⟨behind, he⟩ := begins
  rcases List.append_eq_append_iff.mp he with ⟨part, rfl, -⟩ | ⟨part, rfl, hp⟩
  · exact ⟨part, textLines rest, textLines_line_append hl rest⟩
  · cases part with
    | nil => exact ⟨[], textLines rest, by simpa using textLines_line_append hl rest⟩
    | cons c part =>
      cases (List.cons.inj hp).1
      exact absurd (by simp) plain

theorem trimmedLine_append_singleton {c : Char} (h : c ≠ '\r') (line : List Char) :
    trimmedLine (line ++ [c]) = line ++ [c] := by
  induction line with
  | nil => simp [trimmedLine, h]
  | cons d line ih =>
    cases line with
    | nil => simp [trimmedLine_cons_cons, trimmedLine, h]
    | cons => simpa [trimmedLine_cons_cons] using ih

/-- A mark without a carriage return is not touched by the end of the line. -/
theorem isPrefixOf_trimmedLine {mark : List Char} (h : '\r' ∉ mark) (line : List Char) :
    mark.isPrefixOf (trimmedLine line) = mark.isPrefixOf line := by
  induction line generalizing mark with
  | nil => rfl
  | cons c line ih =>
    cases mark with
    | nil => rfl
    | cons m mark =>
      obtain ⟨hm, h⟩ := List.ne_and_not_mem_of_not_mem_cons h
      cases line with
      | nil =>
        by_cases hc : c = '\r'
        · subst hc
          simp [trimmedLine, List.isPrefixOf, Ne.symm hm]
        · simp [trimmedLine, hc]
      | cons d line => simp only [trimmedLine_cons_cons, List.isPrefixOf, ih h]

theorem head?_of_textLines {text line : List Char} {lines : List (List Char)} {c : Char}
    (h : textLines text = line :: lines) (hc : line.head? = some c) : text.head? = some c := by
  rw [textLines.eq_def] at h
  split at h
  next => cases h
  next => cases h; cases hc
  next => cases h; cases hc
  next => split at h <;> cases h <;> exact hc

/-- The first character of a line follows a line feed, unless it begins the text. -/
theorem infix_of_mem_tail_textLines {text line : List Char} {c : Char}
    (hl : line ∈ (textLines text).tail) (hc : line.head? = some c) : ['\n', c] <:+: text := by
  have first {rest : List Char} (hl : line ∈ textLines rest)
      (ih : line ∈ (textLines rest).tail → ['\n', c] <:+: rest) :
      ['\n', c] <:+: '\n' :: rest := by
    cases hs : textLines rest with
    | nil => simp [hs] at hl
    | cons head tail =>
      rw [hs] at hl ih
      rcases List.mem_cons.mp hl with rfl | hl
      · obtain ⟨after, rfl⟩ := List.head?_eq_some_iff.mp (head?_of_textLines hs hc)
        exact ⟨[], after, rfl⟩
      · exact List.infix_cons (ih hl)
  induction text using textLines.induct with
  | case1 => simp [textLines] at hl
  | case2 rest ih =>
    rw [textLines] at hl
    exact List.infix_cons (first hl ih)
  | case3 rest ih =>
    rw [textLines] at hl
    exact first hl ih
  | case4 d rest hr hn hlines ih =>
    rw [textLines, hlines] at hl
    · cases hl
    · exact hr
    · exact hn
  | case5 d rest hr hn before lines hlines ih =>
    rw [textLines, hlines] at hl
    · exact List.infix_cons (ih (hlines ▸ hl))
    · exact hr
    · exact hn

/-- The lines of a text have its characters, but for line breaks. -/
theorem mem_of_mem_textLines {text line : List Char} {c : Char} (h : line ∈ textLines text)
    (hc : c ∈ line) : c ≠ '\n' ∧ c ∈ text := by
  induction text using textLines.induct generalizing line with
  | case1 => cases h
  | case2 rest ih =>
    rw [textLines] at h
    rcases List.mem_cons.mp h with rfl | h
    · cases hc
    · exact (ih h hc).imp_right fun hm => List.mem_cons_of_mem _ (List.mem_cons_of_mem _ hm)
  | case3 rest ih =>
    rw [textLines] at h
    rcases List.mem_cons.mp h with rfl | h
    · cases hc
    · exact (ih h hc).imp_right (List.mem_cons_of_mem _)
  | case4 d rest hr hn hlines ih =>
    rw [textLines, hlines] at h
    · rw [List.mem_singleton.mp h] at hc
      cases List.mem_singleton.mp hc
      exact ⟨hn, List.mem_cons_self⟩
    · exact hr
    · exact hn
  | case5 d rest hr hn first lines hlines ih =>
    have later {line : List Char} (h : line ∈ first :: lines) (hc : c ∈ line) :
        c ≠ '\n' ∧ c ∈ d :: rest := (ih (hlines ▸ h) hc).imp_right (List.mem_cons_of_mem _)
    rw [textLines, hlines] at h
    · rcases List.mem_cons.mp h with rfl | h
      · rcases List.mem_cons.mp hc with rfl | hc
        · exact ⟨hn, List.mem_cons_self⟩
        · exact later List.mem_cons_self hc
      · exact later (List.mem_cons_of_mem _ h) hc
    · exact hr
    · exact hn

theorem newline_not_mem_textLines {text line : List Char} (h : line ∈ textLines text) :
    '\n' ∉ line :=
  fun hc => (mem_of_mem_textLines h hc).1 rfl

namespace CodeWriter

/-- A line at some depth; an empty one is not indented. -/
def indented (tab : String) (depth : Nat) (line : List Char) : List Char :=
  if line = [] then [] else (List.replicate depth tab.toList).flatten ++ line

variable {w : CodeWriter}

/-- What is written comes behind what is there, and the depth is the same in the end. -/
structure Continues (w after : CodeWriter) : Prop where
  tab_eq : after.tab = w.tab
  depth_eq : after.depth = w.depth
  begins : w.text.toList <+: after.text.toList

theorem Continues.refl (w : CodeWriter) : w.Continues w :=
  ⟨rfl, rfl, List.prefix_refl _⟩

theorem Continues.trans {between after : CodeWriter} (h : w.Continues between)
    (h' : between.Continues after) : w.Continues after :=
  ⟨h'.tab_eq.trans h.tab_eq, h'.depth_eq.trans h.depth_eq, h.begins.trans h'.begins⟩

theorem continues_newline (w : CodeWriter) : w.Continues w.newline :=
  ⟨rfl, rfl, by simp [newline]⟩

theorem continues_write (w : CodeWriter) (text : String) : w.Continues (w.write text) := by
  unfold write
  split
  next => exact .refl w
  next => exact ⟨rfl, rfl, by simp⟩

@[simp] theorem write_tab (w : CodeWriter) (text : String) : (w.write text).tab = w.tab :=
  (continues_write w text).tab_eq

@[simp] theorem write_depth (w : CodeWriter) (text : String) : (w.write text).depth = w.depth :=
  (continues_write w text).depth_eq

theorem continues_line (w : CodeWriter) (text : String) : w.Continues (w.line text) :=
  (continues_write w text).trans (continues_newline _)

theorem continues_lines (w : CodeWriter) {α : Type} (text : α → String) (list : List α) :
    w.Continues (list.foldl (fun w entry => w.line (text entry)) w) := by
  induction list generalizing w with
  | nil => exact .refl w
  | cons entry rest ih => exact (continues_line w _).trans (ih _)

theorem continues_embed (w : CodeWriter) (text : String) : w.Continues (w.embed text) :=
  continues_lines w String.ofList _

theorem Continues.closeBlock {after : CodeWriter} (h : w.indent.Continues after)
    (footer : String) : w.Continues (after.closeBlock footer) := by
  have last := continues_line after.dedent footer
  refine ⟨last.tab_eq.trans h.tab_eq, ?_, h.begins.trans last.begins⟩
  rw [CodeWriter.closeBlock, last.depth_eq, dedent, h.depth_eq]
  exact Nat.add_sub_cancel _ 1

/-- A block is at the depth of what it stands in. -/
theorem Continues.block {after : CodeWriter} {header : String}
    (h : (w.openBlock header).Continues after) (footer : String) :
    w.Continues (after.closeBlock footer) :=
  (continues_line w header).trans (Continues.closeBlock h footer)

theorem line_toList (h : w.atLineStart = true) (text : String) :
    (w.line text).text.toList =
      w.text.toList ++ joinLines [indented w.tab w.depth text.toList] := by
  by_cases he : text = ""
  · simp [line, write, newline, he, indented, joinLines]
  · simp [line, write, newline, he, indented, indentation, h, joinLines, String.toList_join,
      List.flatMap]

/-- What is embedded is indented line by line. -/
theorem embed_toList (h : w.atLineStart = true) (text : String) :
    (w.embed text).text.toList = w.text.toList ++
      joinLines ((textLines text.toList).map (indented w.tab w.depth)) := by
  unfold embed
  generalize textLines text.toList = lines
  induction lines generalizing w with
  | nil => simp [joinLines]
  | cons first rest ih =>
    have step := continues_line w (String.ofList first)
    rw [List.foldl_cons, ih rfl, line_toList h, step.tab_eq, step.depth_eq, String.toList_ofList,
      List.append_assoc, ← joinLines_append]
    rfl

theorem atLineStart_embed (h : w.atLineStart = true) (text : String) :
    (w.embed text).atLineStart = true := by
  unfold CodeWriter.embed
  induction textLines text.toList generalizing w with
  | nil => exact h
  | cons first rest ih => exact ih rfl

theorem block_toList (h : w.atLineStart = true) (header text footer : String) :
    (((w.openBlock header).embed text).closeBlock footer).text.toList = w.text.toList ++
      joinLines (indented w.tab w.depth header.toList ::
        (textLines text.toList).map (indented w.tab (w.depth + 1)) ++
          [indented w.tab w.depth footer.toList]) := by
  have opened := continues_line w header
  have inside := continues_embed (w.openBlock header) text
  have tab : ((w.openBlock header).embed text).dedent.tab = w.tab :=
    inside.tab_eq.trans opened.tab_eq
  have deep : (w.openBlock header).depth = w.depth + 1 := congrArg (· + 1) opened.depth_eq
  have depth : ((w.openBlock header).embed text).dedent.depth = w.depth := by
    rw [dedent, inside.depth_eq, deep, Nat.add_sub_cancel]
  have rows : ((w.openBlock header).embed text).dedent.text.toList =
      w.text.toList ++ joinLines [indented w.tab w.depth header.toList] ++
        joinLines ((textLines text.toList).map (indented w.tab (w.depth + 1))) := by
    rw [← line_toList h, ← deep, ← opened.tab_eq]
    exact embed_toList rfl text
  have start : ((w.openBlock header).embed text).dedent.atLineStart = true :=
    atLineStart_embed rfl text
  rw [closeBlock, line_toList start, rows, tab, depth,
    List.append_assoc, List.append_assoc, ← joinLines_append, ← joinLines_append]
  rfl

theorem newline_not_mem_indented {tab : String} (ht : '\n' ∉ tab.toList) {depth : Nat}
    {line : List Char} (h : '\n' ∉ line) : '\n' ∉ indented tab depth line := by
  unfold indented
  split
  next => simp
  next => simp [h, ht]

@[simp] theorem indented_zero (tab : String) (line : List Char) : indented tab 0 line = line := by
  unfold indented
  split <;> simp_all

/-- Lines of a kind that are never indented. -/
structure AtMargin (tab : String) (isKey : List Char → Bool) : Prop where
  blank : isKey [] = false
  inner : ∀ line, isKey (tab.toList ++ line) = false

theorem AtMargin.indented {tab : String} {isKey : List Char → Bool} (h : AtMargin tab isKey)
    (depth : Nat) (line : List Char) : isKey (indented tab (depth + 1) line) = false := by
  unfold CodeWriter.indented
  split
  next => exact h.blank
  next => rw [List.replicate_succ, List.flatten_cons, List.append_assoc, h.inner]

/-- A writer has written complete lines and goes on at a depth. -/
structure Shows (w : CodeWriter) (tab : String) (depth : Nat) (lines : List (List Char)) :
    Prop where
  tab_eq : w.tab = tab
  tab_plain : '\n' ∉ tab.toList
  depth_eq : w.depth = depth
  atLineStart : w.atLineStart = true
  text_eq : w.text.toList = joinLines lines
  plain : ∀ line ∈ lines, '\n' ∉ line

variable {tab : String} {depth : Nat} {lines : List (List Char)}

/-- A text with line feeds is more than one line, of which only the first is indented. -/
theorem Shows.line (h : w.Shows tab depth lines) (text : String) :
    (w.line text).Shows tab depth (lines ++ splitOn '\n' (indented tab depth text.toList)) where
  tab_eq := (continues_line w text).tab_eq.trans h.tab_eq
  tab_plain := h.tab_plain
  depth_eq := (continues_line w text).depth_eq.trans h.depth_eq
  atLineStart := rfl
  text_eq := by
    rw [line_toList h.atLineStart, h.text_eq, h.tab_eq, h.depth_eq, joinLines_append,
      joinLines_splitOn]
    simp [joinLines]
  plain := by
    intro line hm
    rcases List.mem_append.mp hm with hm | hm
    · exact h.plain line hm
    · exact not_mem_of_mem_splitOn hm

theorem Shows.openBlock (h : w.Shows tab depth lines) (header : String) :
    (w.openBlock header).Shows tab (depth + 1)
      (lines ++ splitOn '\n' (indented tab depth header.toList)) :=
  { h.line header with depth_eq := congrArg (· + 1) (h.line header).depth_eq }

theorem Shows.closeBlock (h : w.Shows tab (depth + 1) lines) (footer : String) :
    (w.closeBlock footer).Shows tab depth
      (lines ++ splitOn '\n' (indented tab depth footer.toList)) := by
  have out : w.dedent.Shows tab depth lines :=
    { h with depth_eq := by rw [dedent, h.depth_eq, Nat.add_sub_cancel] }
  exact out.line footer

theorem Shows.embed (h : w.Shows tab depth lines) (text : String) :
    (w.embed text).Shows tab depth
      (lines ++ (textLines text.toList).map (indented tab depth)) where
  tab_eq := (continues_embed w text).tab_eq.trans h.tab_eq
  tab_plain := h.tab_plain
  depth_eq := (continues_embed w text).depth_eq.trans h.depth_eq
  atLineStart := atLineStart_embed h.atLineStart text
  text_eq := by
    rw [embed_toList h.atLineStart, h.text_eq, h.tab_eq, h.depth_eq, joinLines_append]
  plain := by
    intro line hm
    rcases List.mem_append.mp hm with hm | hm
    · exact h.plain line hm
    · obtain ⟨line, hl, rfl⟩ := List.mem_map.mp hm
      exact newline_not_mem_indented h.tab_plain (newline_not_mem_textLines hl)

/-- Behind the lines given have come others, none of them of the kind. -/
structure Quiet (w : CodeWriter) (tab : String) (isKey : List Char → Bool) (plain : Prop)
    (depth : Nat) (lines : List (List Char)) : Prop where
  margin : AtMargin tab isKey
  shows : ∃ added, w.Shows tab depth (lines ++ added) ∧ (plain → added.filter isKey = [])

variable {isKey : List Char → Bool} {plain : Prop}

theorem Shows.quiet (h : w.Shows tab depth lines) (margin : AtMargin tab isKey) (plain : Prop) :
    w.Quiet tab isKey plain depth lines :=
  ⟨margin, [], by rwa [List.append_nil], fun _ => rfl⟩

theorem Quiet.next (h : w.Quiet tab isKey plain depth lines) (text : String)
    (ht : plain → '\n' ∉ text.toList)
    (hk : plain → isKey (CodeWriter.indented tab depth text.toList) = false) :
    (w.line text).Quiet tab isKey plain depth lines := by
  obtain ⟨margin, added, shows, none⟩ := h
  have next := shows.line text
  rw [List.append_assoc] at next
  refine ⟨margin, _, next, fun hp => ?_⟩
  rw [List.filter_append, none hp,
    splitOn_of_not_mem (newline_not_mem_indented shows.tab_plain (ht hp)),
    List.filter_cons_of_neg (by simp [hk hp]), List.filter_nil, List.append_nil]

theorem Quiet.indent (h : w.Quiet tab isKey plain depth lines) :
    w.indent.Quiet tab isKey plain (depth + 1) lines := by
  obtain ⟨margin, added, shows, none⟩ := h
  exact ⟨margin, added, { shows with depth_eq := congrArg (· + 1) shows.depth_eq }, none⟩

theorem Quiet.dedent (h : w.Quiet tab isKey plain (depth + 1) lines) :
    w.dedent.Quiet tab isKey plain depth lines := by
  obtain ⟨margin, added, shows, none⟩ := h
  have out : w.dedent.Shows tab depth (lines ++ added) :=
    { shows with depth_eq := by rw [CodeWriter.dedent, shows.depth_eq, Nat.add_sub_cancel] }
  exact ⟨margin, added, out, none⟩

/-- In a block no line can be of the kind. -/
theorem Quiet.line (h : w.Quiet tab isKey plain (depth + 1) lines) (text : String)
    (ht : plain → '\n' ∉ text.toList) : (w.line text).Quiet tab isKey plain (depth + 1) lines :=
  h.next text ht fun _ => h.margin.indented _ _

theorem Quiet.openBlock (h : w.Quiet tab isKey plain (depth + 1) lines) (header : String)
    (ht : plain → '\n' ∉ header.toList) :
    (w.openBlock header).Quiet tab isKey plain (depth + 2) lines :=
  (h.line header ht).indent

theorem Quiet.closeBlock (h : w.Quiet tab isKey plain (depth + 2) lines) (footer : String)
    (ht : plain → '\n' ∉ footer.toList) :
    (w.closeBlock footer).Quiet tab isKey plain (depth + 1) lines :=
  h.dedent.line footer ht

theorem Quiet.embed (h : w.Quiet tab isKey plain depth lines) (text : String)
    (hk : plain → ∀ line ∈ textLines text.toList,
      isKey (CodeWriter.indented tab depth line) = false) :
    (w.embed text).Quiet tab isKey plain depth lines := by
  obtain ⟨margin, added, shows, none⟩ := h
  have next := shows.embed text
  rw [List.append_assoc] at next
  refine ⟨margin, _, next, fun hp => ?_⟩
  have inner : ((textLines text.toList).map (CodeWriter.indented tab depth)).filter isKey = [] := by
    rw [List.filter_eq_nil_iff]
    intro line hm
    obtain ⟨line, hl, rfl⟩ := List.mem_map.mp hm
    simp [hk hp line hl]
  rw [List.filter_append, none hp, inner, List.append_nil]

theorem Quiet.eachLine {α : Type} (h : w.Quiet tab isKey plain (depth + 1) lines)
    (text : α → String) (list : List α)
    (ht : plain → ∀ entry ∈ list, '\n' ∉ (text entry).toList) :
    (list.foldl (fun w entry => w.line (text entry)) w).Quiet tab isKey plain (depth + 1)
      lines := by
  induction list generalizing w with
  | nil => exact h
  | cons entry rest ih =>
    exact ih (h.line _ fun hp => ht hp entry List.mem_cons_self)
      fun hp other ho => ht hp other (List.mem_cons_of_mem _ ho)

theorem Quiet.newline (h : w.Quiet tab isKey plain depth lines) :
    w.newline.Quiet tab isKey plain depth lines :=
  h.next "" (fun _ => by simp) fun _ => by simpa [CodeWriter.indented] using h.margin.blank

theorem Quiet.separate (h : w.Quiet tab isKey plain depth lines) :
    w.separate.Quiet tab isKey plain depth lines := by
  unfold CodeWriter.separate
  split
  next => exact h
  next => exact h.newline

end CodeWriter

end CheckedTypes
