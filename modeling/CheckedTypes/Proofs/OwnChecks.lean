import CheckedTypes.Proofs.ValidatorRows

namespace CheckedTypes

/-- Leaves out every line that opens a block together with the line behind it that ends the block,
the innermost first. -/
def withoutEmptyBlocks {α : Type} (opens ends : α → Bool) : List α → List α
  | [] => []
  | line :: rest =>
    match withoutEmptyBlocks opens ends rest with
    | [] => [line]
    | next :: others => if opens line && ends next then others else line :: next :: others

theorem withoutEmptyBlocks_cons {α : Type} {opens ends : α → Bool} {line : α}
    (h : opens line = false) (rest : List α) :
    withoutEmptyBlocks opens ends (line :: rest) = line :: withoutEmptyBlocks opens ends rest := by
  rw [withoutEmptyBlocks]
  cases withoutEmptyBlocks opens ends rest with
  | nil => rfl
  | cons next others => simp [h]

namespace Row

def isDispatch : Row → Bool
  | dispatch _ _ => true
  | _ => false

def opens : Row → Bool
  | test _ => true
  | guard _ => true
  | loop _ => true
  | _ => false

def ends : Row → Bool
  | blockEnd => true
  | _ => false

/-- The rows of a validator that do not call others, without the blocks that are then empty. -/
def own (rows : List (Nat × Row)) : List (Nat × Row) :=
  withoutEmptyBlocks (fun row => row.2.opens) (fun row => row.2.ends)
    (rows.filter fun row => !row.2.isDispatch)

end Row

namespace Statement

/-- A block around statements, unless there are none. -/
def around (block : List Statement → Statement) : List Statement → List Statement
  | [] => []
  | body => [block body]

mutual
/-- What is left of a statement without the calls of other validators. -/
def own : Statement → List Statement
  | .failUnless predicate reason cursor => [.failUnless predicate reason cursor]
  | .dispatch _ _ => []
  | .guarded cursor body => around (.guarded cursor) (ownAll body)
  | .loop cursor body => around (.loop cursor) (ownAll body)
  | .splice body => ownAll body
def ownAll : List Statement → List Statement
  | [] => []
  | statement :: rest => statement.own ++ ownAll rest
end

theorem ownAll_append (statements more : List Statement) :
    ownAll (statements ++ more) = ownAll statements ++ ownAll more := by
  induction statements with
  | nil => rfl
  | cons statement rest ih => rw [List.cons_append, ownAll, ownAll, ih, List.append_assoc]

theorem mem_around {block : List Statement → Statement} {body : List Statement}
    {statement : Statement} :
    statement ∈ around block body ↔ body ≠ [] ∧ statement = block body := by
  cases body <;> simp [around]

/-- A kind of statement that puts others in a block. -/
structure Encloses (block : List Statement → Statement) (row : Row) : Prop where
  isDispatch : row.isDispatch = false
  opens : row.opens = true
  own : ∀ body, (block body).own = around block (ownAll body)
  rows : ∀ depth body, (block body).rows depth =
    (depth, row) :: (rowsAll (depth + 1) body ++ [(depth, .blockEnd)])

theorem encloses_guarded (cursor : Cursor) : Encloses (.guarded cursor) (.guard cursor) :=
  ⟨rfl, rfl, fun _ => rfl, fun _ _ => rfl⟩

theorem encloses_loop (cursor : Cursor) : Encloses (.loop cursor) (.loop cursor) :=
  ⟨rfl, rfl, fun _ => rfl, fun _ _ => rfl⟩

/-- A statement of which something is shown, and that does not begin with the end of a block. -/
def Shown (statement : Statement) : Prop :=
  ∀ depth, ∃ row rest, statement.rows depth = row :: rest ∧ row.2.ends = false

mutual
theorem shown_of_mem_own : ∀ {statement other : Statement}, other ∈ statement.own → other.Shown
  | .failUnless _ _ _, _, hm => by
    cases List.mem_singleton.mp hm
    exact fun depth => ⟨_, _, rfl, rfl⟩
  | .dispatch _ _, _, hm => by cases hm
  | .guarded _ _, _, hm => by
    obtain ⟨-, rfl⟩ := mem_around.mp hm
    exact fun depth => ⟨_, _, rfl, rfl⟩
  | .loop _ _, _, hm => by
    obtain ⟨-, rfl⟩ := mem_around.mp hm
    exact fun depth => ⟨_, _, rfl, rfl⟩
  | .splice _, _, hm => shown_of_mem_ownAll hm
theorem shown_of_mem_ownAll : ∀ {statements : List Statement} {other : Statement},
    other ∈ ownAll statements → other.Shown
  | [], _, hm => by cases hm
  | _ :: _, _, hm => by
    rcases List.mem_append.mp hm with hm | hm
    · exact shown_of_mem_own hm
    · exact shown_of_mem_ownAll hm
end

end Statement

namespace Row

open Statement

theorem own_cons {row : Nat × Row} (hd : row.2.isDispatch = false) (ho : row.2.opens = false)
    (rest : List (Nat × Row)) : own (row :: rest) = row :: own rest := by
  rw [own, List.filter_cons_of_pos (by simp [hd])]
  exact withoutEmptyBlocks_cons (by exact ho) _

theorem own_cons_of_opens {row : Nat × Row} (hd : row.2.isDispatch = false)
    (ho : row.2.opens = true) {rest others : List (Nat × Row)} {next : Nat × Row}
    (h : own rest = next :: others) :
    own (row :: rest) = if next.2.ends then others else row :: own rest := by
  rw [own] at h
  rw [own, List.filter_cons_of_pos (by simp [hd]), withoutEmptyBlocks, own, h]
  simp [ho]

/-- A block is left out exactly if nothing is left in it. -/
theorem own_block {block : List Statement → Statement} {row : Row} (h : Encloses block row)
    {depth : Nat} {body : List Statement} {rest : List (Nat × Row)}
    (inside : own (rowsAll (depth + 1) body ++ (depth, .blockEnd) :: rest) =
      rowsAll (depth + 1) (ownAll body) ++ own ((depth, .blockEnd) :: rest)) :
    own ((block body).rows depth ++ rest) = rowsAll depth (block body).own ++ own rest := by
  rw [@own_cons (depth, .blockEnd) rfl rfl] at inside
  rw [h.rows, h.own, List.cons_append, List.append_assoc, List.singleton_append]
  cases hb : ownAll body with
  | nil =>
    rw [hb, rowsAll, List.nil_append] at inside
    rw [own_cons_of_opens h.isDispatch h.opens inside]
    rfl
  | cons first others =>
    have mem : first ∈ ownAll body := hb ▸ List.mem_cons_self
    obtain ⟨next, more, shown, begins⟩ := shown_of_mem_ownAll mem (depth + 1)
    have front := inside
    rw [hb, rowsAll, shown] at front
    rw [own_cons_of_opens h.isDispatch h.opens front, begins, if_neg (by simp), inside, hb]
    change _ = (block (first :: others)).rows depth ++ [] ++ own rest
    rw [h.rows, List.append_nil, List.cons_append, List.append_assoc, List.singleton_append]

mutual
/-- What is left of the rows of a statement are the rows of what is left of it. -/
theorem own_rows : ∀ {statement : Statement} {depth : Nat} {rest : List (Nat × Row)},
    own (statement.rows depth ++ rest) = rowsAll depth statement.own ++ own rest
  | .failUnless predicate reason cursor, depth, rest => by
    have failure : own ((depth + 1, .failure reason cursor) :: (depth, .blockEnd) :: rest) = _ :=
      @own_cons (depth + 1, .failure reason cursor) rfl rfl _
    have test := @own_cons_of_opens (depth, .test predicate) rfl rfl _ _ _ failure
    rw [@own_cons (depth, .blockEnd) rfl rfl] at failure
    rw [failure] at test
    exact test
  | .dispatch _ _, _, _ => rfl
  | .guarded cursor _, _, _ => own_block (encloses_guarded cursor) own_rowsAll
  | .loop cursor _, _, _ => own_block (encloses_loop cursor) own_rowsAll
  | .splice _, _, _ => own_rowsAll
theorem own_rowsAll : ∀ {statements : List Statement} {depth : Nat} {rest : List (Nat × Row)},
    own (rowsAll depth statements ++ rest) = rowsAll depth (ownAll statements) ++ own rest
  | [], _, _ => rfl
  | _ :: _, _, _ => by
    rw [rowsAll, ownAll, rowsAll_append, List.append_assoc, List.append_assoc, own_rows,
      own_rowsAll]
end

end Row

end CheckedTypes
