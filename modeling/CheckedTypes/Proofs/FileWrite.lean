import CheckedTypes.FileTree
import Mathlib.Data.List.Basic

namespace CheckedTypes

namespace FileTree

section

variable {place other : List String} {content : ByteArray} {files : List (List String × ByteArray)}

end

variable {tree other last : FileTree} {place : List String} {path text : String}

/-- What was a directory still is one. -/
structure KeepsDirectories (tree other : FileTree) : Prop where
  home_eq : other.home = tree.home
  entry_eq : ∀ place, tree.entry? place = some .directory → other.entry? place = some .directory

theorem KeepsDirectories.refl (tree : FileTree) : tree.KeepsDirectories tree :=
  ⟨rfl, fun _ h => h⟩

theorem KeepsDirectories.trans (h : tree.KeepsDirectories other)
    (h' : other.KeepsDirectories last) : tree.KeepsDirectories last :=
  ⟨h'.home_eq.trans h.home_eq, fun place hd => h'.entry_eq place (h.entry_eq place hd)⟩

/-- A path that leads somewhere only goes through directories, so it still leads there. -/
theorem KeepsDirectories.follow_eq (h : tree.KeepsDirectories other) {parts : List String}
    {found : List String} (hf : tree.follow place parts = .ok found) :
    other.follow place parts = .ok found := by
  induction parts generalizing place with
  | nil => exact hf
  | cons part rest ih =>
    rw [FileTree.follow] at hf ⊢
    cases he : tree.entry? place with
    | none =>
      rw [he] at hf
      cases hf
    | some entry =>
      rw [he] at hf
      cases entry with
      | file | sink => cases hf
      | directory =>
        rw [h.entry_eq place he]
        dsimp only at hf ⊢
        by_cases still : part = "" ∨ part = "."
        · rw [if_pos still] at hf ⊢
          exact ih hf
        rw [if_neg still] at hf ⊢
        by_cases up : part = ".."
        · rw [if_pos up] at hf ⊢
          exact ih hf
        rw [if_neg up] at hf ⊢
        by_cases long : nameLimit < part.utf8ByteSize
        · rw [if_pos long] at hf
          cases hf
        · rw [if_neg long] at hf ⊢
          exact ih hf

theorem KeepsDirectories.place_eq (h : tree.KeepsDirectories other) {found : List String}
    (hf : tree.place path = .ok found) : other.place path = .ok found := by
  unfold FileTree.place followPath at hf ⊢
  rw [h.home_eq]
  by_cases nul : path.contains '\x00'
  · rw [if_pos nul] at hf
    cases hf
  rw [if_neg nul] at hf ⊢
  by_cases empty : path.isEmpty
  · rw [if_pos empty] at hf
    cases hf
  rw [if_neg empty] at hf ⊢
  by_cases long : pathLimit < path.utf8ByteSize
  · rw [if_pos long] at hf
    cases hf
  · rw [if_neg long] at hf ⊢
    exact h.follow_eq hf

theorem entry?_eq_directory_iff :
    tree.entry? place = some .directory ↔ tree.files.lookup place = none ∧
      tree.sinks.contains place = false ∧ tree.fullSinks.contains place = false ∧
      tree.isDirectory place = true := by
  unfold entry?
  cases tree.files.lookup place with
  | some content => simp
  | none =>
    cases tree.sinks.contains place <;> cases tree.fullSinks.contains place <;>
      cases tree.isDirectory place <;> simp

/-- Directories were created under some of the paths, and that is all. -/
def Grows (paths : List String) (tree other : FileTree) : Prop :=
  ∃ made, other = { tree with directories := tree.directories ++ made } ∧
    ∀ place ∈ made, ∃ path ∈ paths, other.place (withoutEndSlashes path) = .ok place

theorem keepsDirectories_append (tree : FileTree) (made : List (List String)) :
    tree.KeepsDirectories { tree with directories := tree.directories ++ made } := by
  refine ⟨rfl, fun place hd => ?_⟩
  rw [entry?_eq_directory_iff] at hd ⊢
  refine ⟨hd.1, hd.2.1, hd.2.2.1, ?_⟩
  have directory := hd.2.2.2
  simp only [isDirectory, List.any_append, Bool.or_eq_true] at directory ⊢
  tauto

theorem Grows.keepsDirectories {paths : List String} (h : tree.Grows paths other) :
    tree.KeepsDirectories other := by
  obtain ⟨made, rfl, -⟩ := h
  exact keepsDirectories_append tree made

theorem Grows.refl (paths : List String) (tree : FileTree) : tree.Grows paths tree :=
  ⟨[], by rw [List.append_nil], nofun⟩

theorem Grows.trans {paths more : List String} (h : tree.Grows paths other)
    (h' : other.Grows more last) (inside : paths ⊆ more) : tree.Grows more last := by
  have keeps := h'.keepsDirectories
  obtain ⟨made, rfl, under⟩ := h
  obtain ⟨added, rfl, under'⟩ := h'
  refine ⟨made ++ added, by rw [List.append_assoc], fun place hm => ?_⟩
  rcases List.mem_append.mp hm with hm | hm
  · obtain ⟨path, hp, found⟩ := under place hm
    exact ⟨path, inside hp, keeps.place_eq found⟩
  · exact under' place hm

end FileTree

end CheckedTypes
