import CheckedTypes.TypeTable
import Mathlib.Data.List.Forall2

namespace CheckedTypes

theorem map_eq_map_iff_forall₂ {α β γ : Type} {f : α → γ} {g : β → γ} {list : List α}
    {others : List β} :
    list.map f = others.map g ↔ List.Forall₂ (fun a b => f a = g b) list others := by
  rw [← List.forall₂_eq_eq_eq, List.forall₂_map_left_iff, List.forall₂_map_right_iff]

namespace SchemaDocument

/-- The definitions in both sections of a document. -/
def children (document : SchemaDocument) : List (String × SchemaDocument) :=
  document.definitions.getD [] ++ document.defs.getD []

/-- No name stands in both sections. -/
def SectionsApart (document : SchemaDocument) : Prop :=
  ((document.definitions.getD []).map Prod.fst).Disjoint ((document.defs.getD []).map Prod.fst)

/-- A definition stands in a document under a path, each name of which is that of a definition in
the one before. -/
inductive Defines : SchemaDocument → List String → SchemaDocument → Prop
  | child {document definition : SchemaDocument} {name : String} :
      (name, definition) ∈ document.children → Defines document [name] definition
  | inner {document definition last : SchemaDocument} {name : String} {path : List String} :
      (name, definition) ∈ document.children → Defines definition path last →
      Defines document (name :: path) last

mutual
/-- The definitions inside a document, at any depth, each under its path. -/
def definitionsBelow (path : List String) :
    SchemaDocument → List (List String × SchemaDocument)
  | ⟨_, _, _, _, _, _, _, _, _, _, definitions, defs⟩ =>
    sectionDefinitions path definitions ++ sectionDefinitions path defs
def sectionDefinitions (path : List String) :
    Option (List (String × SchemaDocument)) → List (List String × SchemaDocument)
  | none => []
  | some children => childrenDefinitions path children
def childrenDefinitions (path : List String) :
    List (String × SchemaDocument) → List (List String × SchemaDocument)
  | [] => []
  | (name, document) :: rest =>
    (path ++ [name], document) ::
      (document.definitionsBelow (path ++ [name]) ++ childrenDefinitions path rest)
end

theorem sizeOf_lt_of_mem_section {named : Option (List (String × SchemaDocument))} {name : String}
    {definition : SchemaDocument} (h : (name, definition) ∈ named.getD []) :
    sizeOf definition < sizeOf named := by
  cases named with
  | none => cases h
  | some list =>
    have := List.sizeOf_lt_of_mem h
    simp at this ⊢
    omega

theorem sizeOf_child_lt {document definition : SchemaDocument} {name : String}
    (h : (name, definition) ∈ document.children) : sizeOf definition < sizeOf document := by
  have sections : sizeOf document.definitions + sizeOf document.defs < sizeOf document := by
    cases document
    simp only [SchemaDocument.mk.sizeOf_spec]
    omega
  rcases List.mem_append.mp h with h | h
  · have := sizeOf_lt_of_mem_section h
    omega
  · have := sizeOf_lt_of_mem_section h
    omega

/-- Induction over the definitions inside documents. -/
theorem definition_induct {motive : SchemaDocument → Prop}
    (step : ∀ document, (∀ name definition, (name, definition) ∈ document.children →
      motive definition) → motive document) (document : SchemaDocument) : motive document :=
  step document fun _ definition member =>
    have := sizeOf_child_lt member
    definition_induct step definition
termination_by sizeOf document

theorem childrenDefinitions_eq (path : List String) (children : List (String × SchemaDocument)) :
    childrenDefinitions path children = children.flatMap fun child =>
      (path ++ [child.1], child.2) :: child.2.definitionsBelow (path ++ [child.1]) := by
  induction children with
  | nil => rfl
  | cons child rest ih =>
    obtain ⟨name, definition⟩ := child
    rw [childrenDefinitions, ih]
    rfl

theorem definitionsBelow_eq (path : List String) (document : SchemaDocument) :
    document.definitionsBelow path = document.children.flatMap fun child =>
      (path ++ [child.1], child.2) :: child.2.definitionsBelow (path ++ [child.1]) := by
  have sections (named : Option (List (String × SchemaDocument))) :
      sectionDefinitions path named = childrenDefinitions path (named.getD []) := by
    cases named <;> rfl
  obtain ⟨_, _, _, _, _, _, _, _, _, _, definitions, defs⟩ := document
  rw [definitionsBelow, sections, sections, childrenDefinitions_eq, childrenDefinitions_eq,
    ← List.flatMap_append]
  rfl

theorem mem_definitionsBelow {document definition : SchemaDocument} {path place : List String} :
    (place, definition) ∈ document.definitionsBelow path ↔
      ∃ rest, place = path ++ rest ∧ document.Defines rest definition := by
  induction document using definition_induct generalizing path place with
  | step document ih =>
    rw [definitionsBelow_eq, List.mem_flatMap]
    constructor
    · rintro ⟨⟨name, child⟩, hc, hm⟩
      rcases List.mem_cons.mp hm with he | hm
      · obtain ⟨rfl, rfl⟩ := Prod.mk.inj he
        exact ⟨[name], rfl, .child hc⟩
      · obtain ⟨rest, rfl, hd⟩ := (ih name child hc).mp hm
        exact ⟨name :: rest, by simp, .inner hc hd⟩
    · rintro ⟨rest, rfl, hd⟩
      cases hd with
      | @child _ _ name hc => exact ⟨(name, definition), hc, List.mem_cons_self⟩
      | @inner _ child _ name rest hc hd =>
        have below : (path ++ [name] ++ rest, definition) ∈
            child.definitionsBelow (path ++ [name]) := (ih name child hc).mpr ⟨rest, rfl, hd⟩
        exact ⟨(name, child), hc, List.mem_cons_of_mem _ (by simpa using below)⟩

theorem repeatedDefinition?_eq_none_iff {document : SchemaDocument} :
    document.repeatedDefinition? = none ↔ document.SectionsApart := by
  simp only [repeatedDefinition?, List.find?_eq_none, List.contains_eq_mem, decide_eq_true_eq,
    SectionsApart, List.Disjoint]
  exact ⟨fun h name hd hs => h name hs hd, fun h name hs hd => h hd hs⟩

theorem childEntries_eq (path : List String) (children : List (String × SchemaDocument)) :
    childEntries path children = children.flatMap fun child =>
      child.2.definitionEntry (path ++ [child.1]) ::
        child.2.definitionEntries (path ++ [child.1]) := by
  induction children with
  | nil => rfl
  | cons child rest ih =>
    obtain ⟨name, definition⟩ := child
    rw [childEntries, ih]
    rfl

/-- Where the sections are apart, the types to register are those of the definitions and of what
is inside them. -/
theorem definitionEntries_of_apart {document : SchemaDocument} (apart : document.SectionsApart)
    (path : List String) :
    document.definitionEntries path = document.children.flatMap fun child =>
      child.2.definitionEntry (path ++ [child.1]) ::
        child.2.definitionEntries (path ++ [child.1]) := by
  have sections (named : Option (List (String × SchemaDocument))) :
      sectionEntries path named = childEntries path (named.getD []) := by
    cases named <;> rfl
  have none := repeatedDefinition?_eq_none_iff.mpr apart
  obtain ⟨_, _, _, _, _, _, _, _, _, _, definitions, defs⟩ := document
  rw [definitionEntries, childDefinitions, none]
  dsimp only
  rw [sections, sections, childEntries_eq, childEntries_eq, ← List.flatMap_append]
  rfl

/-- A repeated definition is an error in place of all that is inside the document. -/
theorem definitionEntries_of_not_apart {document : SchemaDocument}
    (h : ¬document.SectionsApart) (path : List String) :
    ∃ fault, document.definitionEntries path = [.error fault] := by
  obtain ⟨name, repeated⟩ : ∃ name, document.repeatedDefinition? = some name :=
    Option.ne_none_iff_exists'.mp (repeatedDefinition?_eq_none_iff.not.mpr h)
  obtain ⟨_, _, _, _, _, _, _, _, _, _, definitions, defs⟩ := document
  rw [definitionEntries, childDefinitions, repeated]
  exact ⟨_, rfl⟩

/-- In the document and in every definition inside it the sections are apart. -/
def AllApart (document : SchemaDocument) : Prop :=
  document.SectionsApart ∧ ∀ path definition, document.Defines path definition →
    definition.SectionsApart

theorem AllApart.child {document definition : SchemaDocument} {name : String}
    (h : document.AllApart) (hc : (name, definition) ∈ document.children) :
    definition.AllApart :=
  ⟨h.2 _ _ (.child hc), fun _ _ hd => h.2 _ _ (.inner hc hd)⟩

theorem AllApart.of_children {document : SchemaDocument} (apart : document.SectionsApart)
    (h : ∀ name definition, (name, definition) ∈ document.children → definition.AllApart) :
    document.AllApart := by
  refine ⟨apart, fun path definition hd => ?_⟩
  cases hd with
  | child hc => exact (h _ _ hc).1
  | inner hc hd => exact (h _ _ hc).2 _ _ hd

theorem definitionEntries_eq_map {document : SchemaDocument} (apart : document.AllApart)
    (path : List String) :
    document.definitionEntries path =
      (document.definitionsBelow path).map fun below => below.2.definitionEntry below.1 := by
  induction document using definition_induct generalizing path with
  | step document ih =>
    rw [definitionEntries_of_apart apart.1, definitionsBelow_eq, List.map_flatMap]
    refine List.flatMap_congr fun child hc => ?_
    rw [List.map_cons, ih child.1 child.2 hc (apart.child hc)]

theorem allApart_of_definitionEntries {document : SchemaDocument} (path : List String)
    (h : ∀ entry ∈ document.definitionEntries path, ∃ found, entry = .ok found) :
    document.AllApart := by
  induction document using definition_induct generalizing path with
  | step document ih =>
    by_cases apart : document.SectionsApart
    · rw [definitionEntries_of_apart apart] at h
      refine .of_children apart fun name definition hc =>
        ih name definition hc (path ++ [name]) fun entry he => ?_
      exact h entry (List.mem_flatMap.mpr ⟨_, hc, List.mem_cons_of_mem _ he⟩)
    · obtain ⟨fault, hf⟩ := definitionEntries_of_not_apart apart path
      rw [hf] at h
      obtain ⟨found, he⟩ := h _ List.mem_cons_self
      cases he

/-- The types of definitions, one for each. -/
def ListsEntries (below : List (List String × SchemaDocument)) (entries : List TypeEntry) : Prop :=
  List.Forall₂ (fun below entry => below.2.definitionEntry below.1 = .ok entry) below entries

/-- There are only types to register exactly if no definition is repeated in the sections of a
document, and then they are those of the definitions. -/
theorem definitionEntries_eq_ok_iff {document : SchemaDocument} {path : List String}
    {entries : List TypeEntry} :
    document.definitionEntries path = entries.map .ok ↔
      document.AllApart ∧ ListsEntries (document.definitionsBelow path) entries := by
  rw [ListsEntries, ← map_eq_map_iff_forall₂]
  constructor
  · intro h
    have apart : document.AllApart := by
      refine allApart_of_definitionEntries path fun entry he => ?_
      rw [h] at he
      obtain ⟨found, -, rfl⟩ := List.mem_map.mp he
      exact ⟨found, rfl⟩
    exact ⟨apart, definitionEntries_eq_map apart path ▸ h⟩
  · rintro ⟨apart, h⟩
    rw [definitionEntries_eq_map apart, h]

end SchemaDocument

end CheckedTypes
