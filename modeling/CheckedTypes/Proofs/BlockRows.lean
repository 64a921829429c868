import CheckedTypes.Proofs.OwnChecks
import Mathlib

namespace CheckedTypes

namespace Row

/-- Rows that consist of whole blocks inside others, of which the rows that open them are given from
the inside out. Each row has a property that may depend on the blocks around it and, where it opens
one itself, on the rows in that. -/
inductive Blocks (Fits : List Row → Row → List Row → Prop) : List Row → List (Nat × Row) → Prop
  | nil {enclosing} : Blocks Fits enclosing []
  | line {enclosing row rest} : row.opens = false → row.ends = false → Fits enclosing row [] →
      Blocks Fits enclosing rest → Blocks Fits enclosing ((enclosing.length, row) :: rest)
  | block {enclosing header body rest} : header.opens = true → body ≠ [] →
      Fits enclosing header (body.map Prod.snd) → Blocks Fits (header :: enclosing) body →
      Blocks Fits enclosing rest →
      Blocks Fits enclosing
        ((enclosing.length, header) :: (body ++ (enclosing.length, .blockEnd) :: rest))

variable {Fits Also : List Row → Row → List Row → Prop} {enclosing : List Row}
  {rows more : List (Nat × Row)}

theorem Blocks.append (h : Blocks Fits enclosing rows) (h' : Blocks Fits enclosing more) :
    Blocks Fits enclosing (rows ++ more) := by
  induction h with
  | nil => exact h'
  | line opens ends fits _ ih => exact .line opens ends fits (ih h')
  | block opens hne fits inside _ _ ih =>
    rw [List.cons_append, List.append_assoc, List.cons_append]
    exact .block opens hne fits inside (ih h')

theorem Blocks.imp (h : Blocks Fits enclosing rows)
    (weaken : ∀ enclosing row body, Fits enclosing row body → Also enclosing row body) :
    Blocks Also enclosing rows := by
  induction h with
  | nil => exact .nil
  | line opens ends fits _ ih => exact .line opens ends (weaken _ _ _ fits) ih
  | block opens hne fits _ _ inside ih =>
    exact .block opens hne (weaken _ _ _ fits) inside ih

/-- What is not empty begins with a row that looks at some place. -/
theorem Blocks.exists_cursor (h : Blocks Fits enclosing rows) (hne : rows ≠ []) :
    ∃ row ∈ rows, ∃ cursor, cursor ∈ row.2.cursors := by
  have looks : ∀ row : Row, row.ends = false → ∃ cursor, cursor ∈ row.cursors := by
    intro row ends
    cases row <;> first | exact ⟨_, List.mem_cons_self⟩ | cases ends
  cases h with
  | nil => exact absurd rfl hne
  | line _ ends => exact ⟨_, List.mem_cons_self, looks _ ends⟩
  | @block _ header _ _ opens =>
    refine ⟨_, List.mem_cons_self, looks _ ?_⟩
    cases header <;> first | rfl | cases opens

end Row

namespace Statement

/-- The statements are written as whole blocks, and as none only where there are no statements. -/
structure Laid (Fits : List Row → Row → List Row → Prop) (enclosing : List Row)
    (checks : List Statement) : Prop where
  blocks : Row.Blocks Fits enclosing (rowsAll enclosing.length checks)
  shown : checks ≠ [] → rowsAll enclosing.length checks ≠ []

variable {Fits : List Row → Row → List Row → Prop} {enclosing : List Row}
  {checks more body : List Statement}

theorem Laid.nil : Laid Fits enclosing [] :=
  ⟨.nil, fun hne => absurd rfl hne⟩

theorem Laid.append (h : Laid Fits enclosing checks) (h' : Laid Fits enclosing more) :
    Laid Fits enclosing (checks ++ more) := by
  have rows := rowsAll_append enclosing.length checks more
  refine ⟨rows ▸ h.blocks.append h'.blocks, fun hne empty => ?_⟩
  rw [rows, List.append_eq_nil_iff] at empty
  refine hne (List.append_eq_nil_iff.mpr ⟨?_, ?_⟩)
  · exact by_contra fun hc => h.shown hc empty.1
  · exact by_contra fun hm => h'.shown hm empty.2

theorem laid_of_rows {statement : Statement} {row : Nat × Row} {rest : List (Nat × Row)}
    (h : statement.rows enclosing.length = row :: rest)
    (blocks : Row.Blocks Fits enclosing (row :: rest)) : Laid Fits enclosing [statement] := by
  have rows : rowsAll enclosing.length [statement] = row :: rest := by
    rw [rowsAll, rowsAll, List.append_nil, h]
  exact ⟨rows ▸ blocks, fun _ => rows ▸ List.cons_ne_nil _ _⟩

theorem laid_failUnless {predicate : Predicate} {reason : Reason} {cursor : Cursor}
    (test : Fits enclosing (.test predicate) [.failure reason cursor])
    (failure : Fits (.test predicate :: enclosing) (.failure reason cursor) []) :
    Laid Fits enclosing [.failUnless predicate reason cursor] := by
  have body : Row.Blocks Fits (.test predicate :: enclosing)
      [(enclosing.length + 1, .failure reason cursor)] := .line rfl rfl failure .nil
  exact laid_of_rows rfl (.block rfl (List.cons_ne_nil _ _) test body .nil)

theorem laid_dispatch {ident : String} {cursor : Cursor}
    (fits : Fits enclosing (.dispatch ident cursor) []) :
    Laid Fits enclosing [.dispatch ident cursor] :=
  laid_of_rows rfl (.line rfl rfl fits .nil)

/-- A block around statements. -/
theorem laid_block {block : List Statement → Statement} {header : Row}
    (h : Encloses block header) (hne : body ≠ [])
    (inside : Laid Fits (header :: enclosing) body)
    (fits : Fits enclosing header ((rowsAll (enclosing.length + 1) body).map Prod.snd)) :
    Laid Fits enclosing [block body] :=
  laid_of_rows (h.rows _ _) (.block h.opens (inside.shown hne) fits inside.blocks .nil)

theorem laid_splice (hne : body ≠ []) (inside : Laid Fits enclosing body) :
    Laid Fits enclosing [.splice body] := by
  have rows : rowsAll enclosing.length [.splice body] = rowsAll enclosing.length body := by
    rw [rowsAll, rowsAll, List.append_nil, Statement.rows]
  exact ⟨rows ▸ inside.blocks, fun _ => rows ▸ inside.shown hne⟩

theorem laid_unlessEmpty {constrained : Bool} {statement : Statement}
    (h : constrained = true → Laid Fits enclosing [statement]) :
    Laid Fits enclosing (EmissionContext.unlessEmpty constrained statement) := by
  cases constrained with
  | true => exact h rfl
  | false => exact .nil

end Statement

end CheckedTypes
