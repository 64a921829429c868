import CheckedTypes.Proofs.WrittenText

namespace CheckedTypes

/-- What stands before a character, which has to occur. -/
def before? (stop : Char) : List Char → Option (List Char)
  | [] => none
  | c :: rest => if c = stop then some [] else (before? stop rest).map (c :: ·)

/-- The name between a keyword at the margin and a character. -/
def nameAfter? (row : List Char) (keyword : String) (stop : Char) : Option String :=
  if keyword.toList.isPrefixOf row then
    ((before? stop (row.drop keyword.toList.length)).map String.ofList).filter (· ≠ "")
  else none

/-- The name that a row of a Go file declares for the package: that of a type, of a variable, or of
a function that is no method. -/
def declaredName? (row : List Char) : Option String :=
  (nameAfter? row "type " ' ').or ((nameAfter? row "var " ' ').or (nameAfter? row "func " '('))

def opensGroup (row : List Char) : Bool :=
  "const (".toList.isPrefixOf row

/-- The names that the rows of a Go file declare, with the state whether a group of constants is
open. The rows of a group are indented, like those inside any other declaration. -/
def readNames : (grouped : Bool) → List (List Char) → List String
  | _, [] => []
  | false, row :: rest =>
    if opensGroup row then readNames true rest
    else (declaredName? row).toList ++ readNames false rest
  | true, row :: rest =>
    if "\t".toList.isPrefixOf row then (nameAfter? row "\t" ' ').toList ++ readNames true rest
    else readNames false rest

/-- The identifiers that a Go file declares at the level of its package, in order. -/
def packageNames (text : String) : List String :=
  readNames false (textLines text.toList)

/-- A name that stands on one line and has no blanks. -/
structure IsWord (name : String) : Prop where
  nonempty : name ≠ ""
  no_blank : ' ' ∉ name.toList
  no_newline : '\n' ∉ name.toList

theorem IsWord.append {name : String} (h : IsWord name) {more : String}
    (blank : ' ' ∉ more.toList) (newline : '\n' ∉ more.toList) : IsWord (name ++ more) where
  nonempty he := h.nonempty (String.append_eq_empty_iff.mp he).1
  no_blank := by simp [h.no_blank, blank]
  no_newline := by simp [h.no_newline, newline]

theorem before?_append {stop : Char} {name : List Char} (h : stop ∉ name) (rest : List Char) :
    before? stop (name ++ stop :: rest) = some name := by
  induction name with
  | nil => simp [before?]
  | cons c name ih =>
    obtain ⟨hc, hn⟩ := List.ne_and_not_mem_of_not_mem_cons h
    rw [List.cons_append, before?, if_neg hc.symm, ih hn]
    rfl

theorem nameAfter?_append {keyword name : String} {stop : Char} (h : stop ∉ name.toList)
    (hn : name ≠ "") (rest : List Char) :
    nameAfter? (keyword.toList ++ (name.toList ++ stop :: rest)) keyword stop = some name := by
  have first : keyword.toList.isPrefixOf (keyword.toList ++ (name.toList ++ stop :: rest)) :=
    List.isPrefixOf_iff_prefix.mpr (List.prefix_append _ _)
  rw [nameAfter?, if_pos first, List.drop_left, before?_append h]
  simp [hn]

theorem declaredName?_type {name : String} (h : IsWord name) (rest : List Char) :
    declaredName? ("type ".toList ++ (name.toList ++ ' ' :: rest)) = some name := by
  rw [declaredName?, nameAfter?_append h.no_blank h.nonempty]
  rfl

theorem declaredName?_var {name : String} (h : IsWord name) (rest : List Char) :
    declaredName? ("var ".toList ++ (name.toList ++ ' ' :: rest)) = some name := by
  have other : nameAfter? ("var ".toList ++ (name.toList ++ ' ' :: rest)) "type " ' ' = none :=
    if_neg (by simp [List.isPrefixOf])
  rw [declaredName?, other, nameAfter?_append h.no_blank h.nonempty]
  rfl

/-- A row that neither declares a name nor opens a group. -/
def isSilent (row : List Char) : Bool :=
  !opensGroup row && (declaredName? row).isNone

/-- What is inside a declaration begins with no letter. -/
theorem isSilent_of_head? {row : List Char}
    (h : ∀ c : Char, c.isAlpha = true → row.head? ≠ some c) :
    isSilent row = true := by
  have apart (c : Char) (mark : List Char) (letter : c.isAlpha = true) :
      (c :: mark).isPrefixOf row = false := by
    cases row with
    | nil => rfl
    | cons d row =>
      have hd : c ≠ d := fun he => h c letter (he ▸ rfl)
      simp [List.isPrefixOf, hd]
  have group : opensGroup row = false := apart 'c' _ (by decide)
  have type : nameAfter? row "type " ' ' = none := if_neg (by simp [apart])
  have value : nameAfter? row "var " ' ' = none := if_neg (by simp [apart])
  have function : nameAfter? row "func " '(' = none := if_neg (by simp [apart])
  rw [isSilent, group, declaredName?, type, value, function]
  rfl

/-- The end of a line is part of no name. -/
theorem trimmedLine_append {mark : List Char} (h : '\r' ∉ mark) (row : List Char) :
    trimmedLine (mark ++ row) = mark ++ trimmedLine row := by
  induction mark with
  | nil => rfl
  | cons c mark ih =>
    obtain ⟨hc, hm⟩ := List.ne_and_not_mem_of_not_mem_cons h
    cases hs : mark ++ row with
    | nil =>
      obtain ⟨rfl, rfl⟩ := List.append_eq_nil_iff.mp hs
      exact trimmedLine_append_singleton hc.symm []
    | cons d rest => rw [List.cons_append, hs, trimmedLine_cons_cons, ← hs, ih hm, List.cons_append]

theorem before?_trimmedLine {stop : Char} (h : stop ≠ '\r') (row : List Char) :
    before? stop (trimmedLine row) = before? stop row := by
  induction row with
  | nil => rfl
  | cons c row ih =>
    cases row with
    | nil =>
      by_cases hc : c = '\r'
      · subst hc
        simp [trimmedLine, before?, h.symm]
      · rw [show trimmedLine [c] = [c] from trimmedLine_append_singleton hc []]
    | cons d row => rw [trimmedLine_cons_cons, before?, ih, ← before?]

theorem nameAfter?_trimmedLine {keyword : String} {stop : Char} (hk : '\r' ∉ keyword.toList)
    (hs : stop ≠ '\r') (row : List Char) :
    nameAfter? (trimmedLine row) keyword stop = nameAfter? row keyword stop := by
  unfold nameAfter?
  rw [isPrefixOf_trimmedLine hk]
  split
  next first =>
    obtain ⟨rest, rfl⟩ := List.isPrefixOf_iff_prefix.mp first
    rw [trimmedLine_append hk, List.drop_left, List.drop_left, before?_trimmedLine hs]
  next => rfl

theorem declaredName?_trimmedLine (row : List Char) :
    declaredName? (trimmedLine row) = declaredName? row := by
  unfold declaredName?
  rw [nameAfter?_trimmedLine (by decide) (by decide),
    nameAfter?_trimmedLine (by decide) (by decide),
    nameAfter?_trimmedLine (by decide) (by decide)]

/-- Between other declarations these rows declare these names. -/
def Reads (rows : List (List Char)) (names : List String) : Prop :=
  ∀ rest, readNames false (rows ++ rest) = names ++ readNames false rest

namespace Reads

variable {rows more : List (List Char)} {names others : List String}

theorem nil : Reads [] [] :=
  fun _ => rfl

theorem append (h : Reads rows names) (h' : Reads more others) :
    Reads (rows ++ more) (names ++ others) := by
  intro rest
  rw [List.append_assoc, h, h', List.append_assoc]

theorem trimmed (h : Reads rows names) : Reads (rows.map trimmedLine) names := by
  have same (grouped : Bool) (rest : List (List Char)) :
      readNames grouped (rows.map trimmedLine ++ rest) = readNames grouped (rows ++ rest) := by
    clear h
    induction rows generalizing grouped with
    | nil => rfl
    | cons row rows ih =>
      rw [List.map_cons, List.cons_append, List.cons_append]
      cases grouped with
      | false =>
        have opens : opensGroup (trimmedLine row) = opensGroup row :=
          isPrefixOf_trimmedLine (by decide) row
        rw [readNames, opens, declaredName?_trimmedLine, ih, ih, readNames]
      | true =>
        rw [readNames, isPrefixOf_trimmedLine (by decide), ih, ih,
          nameAfter?_trimmedLine (by decide) (by decide), readNames]
  exact fun rest => (same false rest).trans (h rest)

/-- A row that opens no group is read by itself. -/
theorem of_row {row : List Char} (h : opensGroup row = false) :
    Reads [row] (declaredName? row).toList := by
  intro rest
  rw [List.singleton_append, readNames, h, if_neg Bool.false_ne_true]

theorem of_rows (h : ∀ row ∈ rows, opensGroup row = false) :
    Reads rows (rows.filterMap declaredName?) := by
  induction rows with
  | nil => exact nil
  | cons row rows ih =>
    obtain ⟨first, others⟩ := List.forall_mem_cons.mp h
    have both := (of_row first).append (ih others)
    cases hn : declaredName? row with
    | none =>
      rw [hn] at both
      rw [List.filterMap_cons_none hn]
      exact both
    | some name =>
      rw [hn] at both
      rw [List.filterMap_cons_some hn]
      exact both

theorem silent (h : ∀ row ∈ rows, isSilent row = true) : Reads rows [] := by
  have each : ∀ row ∈ rows, opensGroup row = false ∧ declaredName? row = none := by
    simpa [isSilent] using h
  have none := of_rows fun row hm => (each row hm).1
  rwa [List.filterMap_eq_nil_iff.mpr fun row hm => (each row hm).2] at none

/-- A group declares its constants. -/
theorem group {α : Type} {row : α → List Char} {name : α → String} {list : List α}
    (inside : ∀ entry ∈ list, "\t".toList.isPrefixOf (row entry) = true)
    (named : ∀ entry ∈ list, nameAfter? (row entry) "\t" ' ' = some (name entry)) :
    Reads ("const (".toList :: (list.map row ++ [")".toList])) (list.map name) := by
  intro rest
  have constants : readNames true (list.map row ++ ")".toList :: rest) =
      list.map name ++ readNames false rest := by
    induction list with
    | nil => rfl
    | cons entry list ih =>
      obtain ⟨tab, inside⟩ := List.forall_mem_cons.mp inside
      obtain ⟨first, named⟩ := List.forall_mem_cons.mp named
      rw [List.map_cons, List.cons_append, readNames, if_pos tab, first, ih inside named]
      rfl
  have opens : opensGroup "const (".toList = true := by decide
  rw [List.cons_append, readNames, if_pos opens, List.append_assoc]
  exact constants

end Reads

end CheckedTypes
