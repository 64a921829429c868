import CheckedTypes.Proofs.WrittenText

namespace CheckedTypes

/-- A line that ends in something else than a carriage return has nothing to lose. -/
theorem trimmedLine_append_of_not_mem {text : List Char} (h : '\r' ∉ text) (shown : text ≠ [])
    (line : List Char) : trimmedLine (line ++ text) = line ++ text := by
  obtain ⟨before, last, rfl⟩ := List.eq_nil_or_concat text |>.resolve_left shown
  have other : last ≠ '\r' := by
    rintro rfl
    exact h (by simp)
  have whole := trimmedLine_append_singleton other (line ++ before)
  simpa using whole

/-- A call of a writer. -/
inductive WriterCall where
  | write (text : String)
  | line (text : String)
  | openBlock (header : String)
  | closeBlock (footer : String)
  | newline
  | indent
  | dedent
  | embed (text : String)

namespace WriterCall

/-- What is written is a part of one line. Only what is embedded has lines of its own, which line
feeds alone end. -/
def IsPlain : WriterCall → Prop
  | write text | line text | openBlock text | closeBlock text =>
    '\n' ∉ text.toList ∧ '\r' ∉ text.toList
  | embed text => '\r' ∉ text.toList
  | newline | indent | dedent => True

/-- The depth after a call, unless the call leads out of where the depth is counted from. -/
def depthAfter? (depth : Nat) : WriterCall → Option Nat
  | openBlock _ | indent => some (depth + 1)
  | closeBlock _ | dedent => if depth = 0 then none else some (depth - 1)
  | write _ | line _ | newline | embed _ => some depth

end WriterCall

namespace CodeWriter

def call (w : CodeWriter) : WriterCall → CodeWriter
  | .write text => w.write text
  | .line text => w.line text
  | .openBlock header => w.openBlock header
  | .closeBlock footer => w.closeBlock footer
  | .newline => w.newline
  | .indent => w.indent
  | .dedent => w.dedent
  | .embed text => w.embed text

def run (w : CodeWriter) (calls : List WriterCall) : CodeWriter :=
  calls.foldl call w

/-- A text of complete lines and the beginning of another, and the same lines, each indented, behind
what a writer has written. -/
structure Reindents (w : CodeWriter) (text deeper : List Char) (lines : List (List Char))
    (begun : List Char) : Prop where
  text_eq : text = joinLines lines ++ begun
  deeper_eq : deeper = w.text.toList ++
    joinLines (lines.map (indented w.tab w.depth)) ++ indented w.tab w.depth begun
  plain : ∀ line ∈ begun :: lines, '\n' ∉ line ∧ trimmedLine line = line

/-- Two writers do the same, the first in a text of its own, the second behind what `w` has written
and as much deeper as `w` is. -/
structure Mirrors (w inner outer : CodeWriter) : Prop where
  inner_tab : inner.tab = w.tab
  outer_tab : outer.tab = w.tab
  depth_eq : outer.depth = w.depth + inner.depth
  start_eq : outer.atLineStart = inner.atLineStart
  reindents : ∃ lines begun, w.Reindents inner.text.toList outer.text.toList lines begun ∧
    (inner.atLineStart = true ↔ begun = [])

variable {w inner outer : CodeWriter}

/-- At the start the text is empty. -/
theorem mirrors_start (h : w.atLineStart = true) (depth : Nat) :
    w.Mirrors { tab := w.tab, depth } { w with depth := w.depth + depth } where
  inner_tab := rfl
  outer_tab := rfl
  depth_eq := rfl
  start_eq := h
  reindents := by
    refine ⟨[], [], ⟨rfl, ?_, by simp [trimmedLine]⟩, by simp⟩
    simp [joinLines, indented]

theorem indentation_toList (w : CodeWriter) :
    w.indentation.toList =
      if w.atLineStart then (List.replicate w.depth w.tab.toList).flatten else [] := by
  unfold indentation
  split <;> simp [String.toList_join, List.flatMap]

theorem newline_not_mem_indentation (h : '\n' ∉ w.tab.toList) : '\n' ∉ w.indentation.toList := by
  rw [indentation_toList]
  split <;> simp [h]

theorem indented_of_ne_nil (tab : String) (depth : Nat) {line : List Char} (h : line ≠ []) :
    indented tab depth line = (List.replicate depth tab.toList).flatten ++ line :=
  if_neg h

theorem write_toList (w : CodeWriter) {text : String} (shown : text ≠ "") :
    (w.write text).text.toList = w.text.toList ++ (w.indentation.toList ++ text.toList) := by
  simp [write, shown]

/-- A line that both writers go on with: in front of it the second indents by the depth of `w`
first. -/
theorem Mirrors.indented_append (h : w.Mirrors inner outer) {begun text : List Char}
    (start : inner.atLineStart = true ↔ begun = []) (shown : text ≠ []) :
    indented w.tab w.depth begun ++ (outer.indentation.toList ++ text) =
      indented w.tab w.depth (begun ++ (inner.indentation.toList ++ text)) := by
  have some_line : begun ++ (inner.indentation.toList ++ text) ≠ [] := by simp [shown]
  rw [indented_of_ne_nil _ _ some_line, indentation_toList, indentation_toList, h.start_eq,
    h.inner_tab, h.outer_tab, h.depth_eq]
  cases hs : inner.atLineStart with
  | true =>
    have fresh : begun = [] := start.mp hs
    rw [if_pos rfl, if_pos rfl, fresh, List.replicate_add, List.flatten_append]
    simp [indented]
  | false =>
    have begins : begun ≠ [] := fun fresh => Bool.false_ne_true (hs.symm.trans (start.mpr fresh))
    simp [indented_of_ne_nil _ _ begins]

theorem Mirrors.write (h : w.Mirrors inner outer) (tab_plain : '\n' ∉ w.tab.toList) {text : String}
    (plain : '\n' ∉ text.toList) (single : '\r' ∉ text.toList) :
    w.Mirrors (inner.write text) (outer.write text) := by
  by_cases shown : text = ""
  · subst shown
    exact h
  have chars : text.toList ≠ [] := by simpa using shown
  obtain ⟨lines, begun, rows, start⟩ := h.reindents
  have line := h.indented_append start chars
  have indentation := newline_not_mem_indentation (w := inner) (h.inner_tab ▸ tab_plain)
  obtain ⟨⟨before, -⟩, others⟩ := List.forall_mem_cons.mp rows.plain
  refine ⟨by simpa using h.inner_tab, by simpa using h.outer_tab, by simpa using h.depth_eq,
    by simp [CodeWriter.write, shown], lines,
    begun ++ (inner.indentation.toList ++ text.toList), ⟨?_, ?_, ?_⟩, ?_⟩
  · rw [write_toList _ shown, rows.text_eq, List.append_assoc]
  · rw [write_toList _ shown, rows.deeper_eq, List.append_assoc, line]
  · refine List.forall_mem_cons.mpr ⟨⟨by simp [before, indentation, plain], ?_⟩, others⟩
    rw [← List.append_assoc]
    exact trimmedLine_append_of_not_mem single chars _
  · simp [CodeWriter.write, shown]

theorem Mirrors.newline (h : w.Mirrors inner outer) : w.Mirrors inner.newline outer.newline := by
  obtain ⟨lines, begun, rows, -⟩ := h.reindents
  obtain ⟨last, others⟩ := List.forall_mem_cons.mp rows.plain
  refine ⟨h.inner_tab, h.outer_tab, h.depth_eq, rfl, lines ++ [begun], [], ⟨?_, ?_, ?_⟩,
    by simp [CodeWriter.newline]⟩
  · simp [CodeWriter.newline, rows.text_eq, joinLines]
  · simp [CodeWriter.newline, rows.deeper_eq, joinLines, indented]
  · refine List.forall_mem_cons.mpr ⟨by simp [trimmedLine], ?_⟩
    exact List.forall_mem_append.mpr ⟨others, List.forall_mem_singleton.mpr last⟩

theorem Mirrors.indent (h : w.Mirrors inner outer) : w.Mirrors inner.indent outer.indent where
  inner_tab := h.inner_tab
  outer_tab := h.outer_tab
  depth_eq := by
    have depths := h.depth_eq
    simp only [CodeWriter.indent]
    omega
  start_eq := h.start_eq
  reindents := h.reindents

/-- Leaving a block is the same for both only if it was entered in the text of its own. -/
theorem Mirrors.dedent (h : w.Mirrors inner outer) (entered : inner.depth ≠ 0) :
    w.Mirrors inner.dedent outer.dedent where
  inner_tab := h.inner_tab
  outer_tab := h.outer_tab
  depth_eq := by
    have depths := h.depth_eq
    simp only [CodeWriter.dedent]
    omega
  start_eq := h.start_eq
  reindents := h.reindents

theorem Mirrors.line (h : w.Mirrors inner outer) (tab_plain : '\n' ∉ w.tab.toList) {text : String}
    (plain : '\n' ∉ text.toList) (single : '\r' ∉ text.toList) :
    w.Mirrors (inner.line text) (outer.line text) :=
  (h.write tab_plain plain single).newline

theorem Mirrors.embed (h : w.Mirrors inner outer) (tab_plain : '\n' ∉ w.tab.toList) {text : String}
    (single : '\r' ∉ text.toList) : w.Mirrors (inner.embed text) (outer.embed text) := by
  have plain : ∀ line ∈ textLines text.toList, '\n' ∉ line ∧ '\r' ∉ line := fun line hl =>
    ⟨newline_not_mem_textLines hl, fun hc => single (mem_of_mem_textLines hl hc).2⟩
  unfold CodeWriter.embed
  generalize textLines text.toList = lines at plain
  induction lines generalizing inner outer with
  | nil => exact h
  | cons first rest ih =>
    obtain ⟨⟨no_newline, no_return⟩, others⟩ := List.forall_mem_cons.mp plain
    have next : w.Mirrors (inner.line (String.ofList first)) (outer.line (String.ofList first)) :=
      h.line tab_plain (by simpa using no_newline) (by simpa using no_return)
    exact ih next others

/-- Each call leaves the writers alike and the first at the depth that is counted. -/
theorem Mirrors.call (h : w.Mirrors inner outer) (tab_plain : '\n' ∉ w.tab.toList)
    {call : WriterCall} (plain : call.IsPlain) {depth : Nat}
    (stays : call.depthAfter? inner.depth = some depth) :
    w.Mirrors (inner.call call) (outer.call call) ∧ (inner.call call).depth = depth := by
  cases call with
  | write text =>
    cases stays
    exact ⟨h.write tab_plain plain.1 plain.2, write_depth _ _⟩
  | line text =>
    cases stays
    exact ⟨h.line tab_plain plain.1 plain.2, (continues_line _ _).depth_eq⟩
  | openBlock header =>
    cases stays
    exact ⟨(h.line tab_plain plain.1 plain.2).indent,
      congrArg (· + 1) (continues_line inner header).depth_eq⟩
  | closeBlock footer =>
    obtain ⟨entered, rfl⟩ : inner.depth ≠ 0 ∧ inner.depth - 1 = depth := by
      simpa [WriterCall.depthAfter?] using stays
    exact ⟨(h.dedent entered).line tab_plain plain.1 plain.2, (continues_line _ _).depth_eq⟩
  | newline =>
    cases stays
    exact ⟨h.newline, rfl⟩
  | indent =>
    cases stays
    exact ⟨h.indent, rfl⟩
  | dedent =>
    obtain ⟨entered, rfl⟩ : inner.depth ≠ 0 ∧ inner.depth - 1 = depth := by
      simpa [WriterCall.depthAfter?] using stays
    exact ⟨h.dedent entered, rfl⟩
  | embed text =>
    cases stays
    exact ⟨h.embed tab_plain plain, (continues_embed _ _).depth_eq⟩

theorem Mirrors.run (h : w.Mirrors inner outer) (tab_plain : '\n' ∉ w.tab.toList)
    {calls : List WriterCall} (plain : ∀ call ∈ calls, call.IsPlain)
    (stays : (calls.foldlM WriterCall.depthAfter? inner.depth).isSome) :
    w.Mirrors (inner.run calls) (outer.run calls) := by
  induction calls generalizing inner outer with
  | nil => exact h
  | cons call rest ih =>
    obtain ⟨first, others⟩ := List.forall_mem_cons.mp plain
    rw [List.foldlM_cons] at stays
    cases hd : call.depthAfter? inner.depth with
    | none => simp [hd] at stays
    | some depth =>
      obtain ⟨next, counted⟩ := h.call tab_plain first hd
      have later : (rest.foldlM WriterCall.depthAfter? (inner.call call).depth).isSome := by
        simpa [hd, counted] using stays
      exact ih next others later

/-- What has been written in a text of its own comes out, when it is embedded, as it was written
directly. -/
theorem Mirrors.embed_eq (h : w.Mirrors inner outer) (start : w.atLineStart = true)
    (ends : inner.atLineStart = true) : (w.embed inner.text).text = outer.text := by
  obtain ⟨lines, begun, rows, fresh⟩ := h.reindents
  have nothing : begun = [] := fresh.mp ends
  subst nothing
  have plain := (List.forall_mem_cons.mp rows.plain).2
  have trimmed : lines.map trimmedLine = lines :=
    List.map_congr_left (fun line hl => (plain line hl).2) |>.trans (List.map_id lines)
  have read : textLines inner.text.toList = lines := by
    rw [rows.text_eq, List.append_nil, textLines_joinLines fun line hl => (plain line hl).1,
      trimmed]
  refine String.toList_inj.mp ?_
  rw [embed_toList start, read, rows.deeper_eq]
  simp [indented]

/-- Embedding is writing at another depth. What calls write that leave no block but those they have
entered, and that end with a line, is the same whether they are made on a writer or made on a fresh
one of which the text is embedded. So a text that is embedded twice is as deep as both depths
together. -/
theorem embed_run (tab_plain : '\n' ∉ w.tab.toList) (start : w.atLineStart = true)
    {calls : List WriterCall} (plain : ∀ call ∈ calls, call.IsPlain)
    (stays : (calls.foldlM WriterCall.depthAfter? 0).isSome)
    (ends : (run { tab := w.tab } calls).atLineStart = true) :
    (w.embed (run { tab := w.tab } calls).text).text = (w.run calls).text ∧
      ∀ (text : String) (inner : Nat), '\r' ∉ text.toList →
        (w.embed (embed { tab := w.tab, depth := inner } text).text).text =
          (embed { w with depth := w.depth + inner } text).text := by
  constructor
  · have written := (mirrors_start start 0).run tab_plain plain stays
    exact written.embed_eq start ends
  · intro text inner single
    have written := (mirrors_start start inner).embed tab_plain single
    exact written.embed_eq start (atLineStart_embed rfl text)

/-- A block around a text with a blank line and a line that is indented already. -/
def blockCalls : List WriterCall :=
  [.openBlock "if x \x7b", .embed "a\n\n  b", .write "y", .write "()", .newline,
    .closeBlock "\x7d"]

/-- A writer inside of a function. -/
def bodyWriter : CodeWriter :=
  { tab := "\t", depth := 1, text := "func \x7b\n" }

theorem embed_run_block :
    (bodyWriter.embed (run { tab := bodyWriter.tab } blockCalls).text).text =
      (bodyWriter.run blockCalls).text ∧
    (bodyWriter.run blockCalls).text =
      "func \x7b\n\tif x \x7b\n\t\ta\n\n\t\t  b\n\t\ty()\n\t\x7d\n" ∧
    (bodyWriter.embed (embed { tab := bodyWriter.tab, depth := 2 } "a\n\nb").text).text =
      (embed { bodyWriter with depth := 3 } "a\n\nb").text := by
  have plain : ∀ call ∈ blockCalls, call.IsPlain := by
    simp [blockCalls, WriterCall.IsPlain]
  have written : (run { tab := bodyWriter.tab } blockCalls).atLineStart = true := by decide
  obtain ⟨once, twice⟩ := embed_run (by decide : '\n' ∉ bodyWriter.tab.toList) rfl plain rfl written
  exact ⟨once, by decide, twice "a\n\nb" 2 (by decide)⟩

end CodeWriter

end CheckedTypes
