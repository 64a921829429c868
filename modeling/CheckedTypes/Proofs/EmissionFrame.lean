import CheckedTypes.Proofs.DeclaredType
import CheckedTypes.Proofs.EmissionWriter
import CheckedTypes.Proofs.EngineNull

namespace CheckedTypes

namespace CodeWriter

variable {target : Target} {w : CodeWriter}

theorem Continues.dedent {after : CodeWriter} (h : w.indent.Continues after) :
    w.Continues after.dedent :=
  ⟨h.tab_eq, by rw [CodeWriter.dedent, h.depth_eq]; exact Nat.add_sub_cancel _ 1, h.begins⟩

theorem continues_text (w : CodeWriter) (text : String) : w.Continues (w.putAll [.text text]) :=
  continues_write w text

theorem continues_texts (w : CodeWriter) (text more : String) :
    w.Continues (w.putAll [.text text, .text more]) :=
  (continues_write w text).trans (continues_write _ more)

theorem continues_textLine (w : CodeWriter) (text : String) :
    w.Continues (w.putAll [.text text, .newline]) :=
  (continues_write w text).trans (continues_newline _)

mutual
/-- A declaration ends at the depth where it began. -/
theorem continues_pieces (target : Target) : ∀ (w : CodeWriter) (type : DeclaredType),
    w.Continues (w.putAll (type.pieces target))
  | w, .null _ => continues_text w _
  | w, .scalar _ _ => continues_text w _
  | w, .sequence elements => by
    have first : w.Continues (w.putAll target.sequenceStart) := by
      cases target <;> exact continues_text w _
    have last (w : CodeWriter) : w.Continues (w.putAll target.sequenceEnd) := by
      cases target with
      | go => exact .refl w
      | typescript => exact continues_text w _
    rw [DeclaredType.pieces, putAll_append, putAll_append]
    exact (first.trans (continues_pieces target _ elements)).trans (last _)
  | w, .record members optional => by
    have first : ∃ text, w.putAll (target.recordStart optional) =
        ((w.write text).newline).indent := by
      cases target <;> exact ⟨_, rfl⟩
    obtain ⟨text, first⟩ := first
    rw [DeclaredType.pieces, putAll_append, putAll_append, first]
    -- The members stand one level deeper, and the brace where the header began.
    have header := (continues_write w text).trans (continues_newline _)
    have inside := continues_memberPieces target (((w.write text).newline).indent) members
    exact (header.trans inside.dedent).trans (continues_text _ "\x7d")
  | w, .reference _ _ => continues_texts w _ _
theorem continues_memberPieces (target : Target) : ∀ (w : CodeWriter)
    (members : List (String × Bool × DeclaredType)),
    w.Continues (w.putAll (DeclaredType.memberPieces target members))
  | w, [] => .refl w
  | w, (name, optional, type) :: rest => by
    have first : w.Continues (w.putAll (target.fieldStart name optional)) := by
      cases target with
      | go => exact continues_texts w _ _
      | typescript => exact continues_text w _
    have last (w : CodeWriter) : w.Continues (w.putAll (target.fieldEnd name optional)) := by
      cases target <;> exact continues_textLine w _
    rw [DeclaredType.memberPieces, putAll_append, putAll_append, putAll_append]
    have member := (first.trans (continues_pieces target _ type)).trans (last _)
    exact member.trans (continues_memberPieces target _ rest)
end

theorem continues_statement (w : CodeWriter) (statement : Statement) :
    w.Continues (w.statement target statement) := by
  cases statement with
  | failUnless predicate reason cursor =>
    rw [CodeWriter.statement]
    exact (continues_line (w.openBlock _) _).block Target.blockEnd
  | dispatch ident cursor => exact continues_line w _
  | guarded cursor body => exact (continues_embed (w.openBlock _) _).block Target.blockEnd
  | loop cursor body => exact (continues_embed (w.openBlock _) _).block Target.blockEnd
  | splice body => exact continues_embed w _

theorem atLineStart_statement (h : w.atLineStart = true) (statement : Statement) :
    (w.statement target statement).atLineStart = true := by
  cases statement with
  | splice body => exact atLineStart_embed h _
  | _ => rfl

theorem continues_statements (w : CodeWriter) (statements : List Statement) :
    w.Continues (w.statements target statements) := by
  induction statements generalizing w with
  | nil => exact .refl w
  | cons statement rest ih => exact (continues_statement w statement).trans (ih _)

theorem atLineStart_statements (h : w.atLineStart = true) (statements : List Statement) :
    (w.statements target statements).atLineStart = true := by
  induction statements generalizing w with
  | nil => exact h
  | cons statement rest ih => exact ih (atLineStart_statement h statement)

end CodeWriter

namespace EmissionContext

/-- Emitting a type only adds to what has been written: all that it opens is closed in the end. A
type that needs checks adds some; where a type cannot be generated, the validator is left as it
was, whichever part of the type is at fault. -/
theorem writeType_frame (context : EmissionContext) (cursor : Cursor) (optional : Bool)
    (node : TypeNode) (drafts : Drafts) (start : drafts.validation.atLineStart = true) :
    context.writeType cursor optional node.sorted drafts =
        drafts.emitted context.target
          (context.emission cursor optional drafts.next node.sorted) ∧
    (∀ ignorable after,
      context.writeType cursor optional node.sorted drafts = (.ok ignorable, after) →
        drafts.declaration.Continues after.declaration ∧
        drafts.validation.Continues after.validation ∧
        after.validation.atLineStart = true ∧
        (ignorable = false →
          drafts.validation.text.length < after.validation.text.length)) ∧
    ∀ fault after,
      context.writeType cursor optional node.sorted drafts = (.error fault, after) →
        after.validation = drafts.validation := by
  have written := context.writeType_eq node.sorted cursor optional drafts
  refine ⟨written, ?_, ?_⟩
  · intro ignorable after h
    rw [written] at h
    cases ho : (context.emission cursor optional drafts.next node.sorted).outcome with
    | error fault =>
      rw [Drafts.emitted_of_error ho] at h
      cases (Prod.mk.inj h).1
    | ok result =>
      obtain ⟨needless, checks⟩ := result
      rw [Drafts.emitted_of_ok ho] at h
      obtain ⟨same, rfl⟩ := Prod.mk.inj h
      cases same
      obtain ⟨type, -, spelled⟩ := exists_declaredType ho
      have emits : context.Emits cursor optional drafts.next node ignorable checks _ := ⟨ho, rfl⟩
      refine ⟨?_, CodeWriter.continues_statements _ _,
        CodeWriter.atLineStart_statements start _, ?_⟩
      · rw [Drafts.add, spelled]
        exact CodeWriter.continues_pieces context.target _ type
      · rintro rfl
        exact Statement.length_lt_statements (grows_emission ho) emits.ne_nil drafts.validation
  · intro fault after h
    rw [written] at h
    cases ho : (context.emission cursor optional drafts.next node.sorted).outcome with
    | error other =>
      rw [Drafts.emitted_of_error ho] at h
      rw [← (Prod.mk.inj h).2]
      rfl
    | ok result =>
      rw [Drafts.emitted_of_ok ho] at h
      cases (Prod.mk.inj h).1

/-- A shelf of which a part cannot be generated, behind one that is checked. -/
def shelfNode : TypeNode :=
  .object [("area", .string { minLength := some 1 }),
    ("boxes", .array (some (.object [("kind", .enumeration ["flat"])] none)) false {})] none

def shelfDrafts : Drafts where
  declaration := CodeWriter.write { tab := "\t" } "type Shelf "
  validation := CodeWriter.line { tab := "\t", depth := 1 } "_ = raw"
  globals := { tab := "\t" }
  next := 0

def shelfContext : EmissionContext where
  target := .go
  table := { entries := [], nodup_name := List.nodup_nil, nodup_ident := List.nodup_nil }
  validated := []
  current := "Shelf"

/-- What has been declared by then stays. -/
theorem writeType_frame_shelf : ∃ fault after,
    shelfContext.writeType FileParts.root false shelfNode.sorted shelfDrafts =
      (.error fault, after) ∧
    after.declaration.text = "type Shelf struct \x7b\n\tArea *string `json:\"area,omitempty\"`\n" ++
      "\tBoxes []struct \x7b\n\t\tKind " ∧
    after.validation = shelfDrafts.validation := by
  obtain ⟨written, -, failed⟩ := writeType_frame shelfContext FileParts.root false shelfNode
    shelfDrafts rfl
  have fails : ∃ fault, (shelfContext.emission FileParts.root false shelfDrafts.next
      shelfNode.sorted).outcome = .error fault := ⟨_, by cbv⟩
  have declares : ∃ pieces, (shelfContext.emission FileParts.root false shelfDrafts.next
      shelfNode.sorted).declaration = pieces ∧
      (shelfDrafts.declaration.putAll pieces).text =
        "type Shelf struct \x7b\n\tArea *string `json:\"area,omitempty\"`\n" ++
          "\tBoxes []struct \x7b\n\t\tKind " := ⟨_, by cbv, by decide⟩
  obtain ⟨fault, ho⟩ := fails
  obtain ⟨pieces, declared, text⟩ := declares
  rw [Drafts.emitted_of_error ho] at written
  refine ⟨fault, _, written, ?_, failed fault _ written⟩
  rw [Drafts.add, declared]
  exact text

end EmissionContext

end CheckedTypes
