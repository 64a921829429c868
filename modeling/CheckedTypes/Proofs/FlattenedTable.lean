import CheckedTypes.Proofs.DefinitionTree
import CheckedTypes.Proofs.TableInsertion
import CheckedTypes.Proofs.TableLookup
import Mathlib

namespace CheckedTypes

section

variable {α β γ : Type} {R : α → β → Prop} {list : List α} {others : List β}

theorem map_eq_of_forall₂ (h : List.Forall₂ R list others) {f : α → γ} {g : β → γ}
    (same : ∀ a b, R a b → f a = g b) : list.map f = others.map g := by
  rw [map_eq_map_iff_forall₂]
  exact h.imp same

theorem exists_forall₂ (h : ∀ a ∈ list, ∃ b, R a b) : ∃ others, List.Forall₂ R list others := by
  induction list with
  | nil => exact ⟨[], .nil⟩
  | cons a rest ih =>
    obtain ⟨b, hb⟩ := h a List.mem_cons_self
    obtain ⟨others, ho⟩ := ih fun other hm => h other (List.mem_cons_of_mem _ hm)
    exact ⟨b :: others, .cons hb ho⟩

end

namespace SchemaDocument

/-- The name of the type of the whole document, if it is one. -/
def registeredRoot (document : SchemaDocument) (root : Option String) : Option String :=
  if document.isType then root else none

/-- What it takes for the types of a document to make a table. -/
structure Flattens (document : SchemaDocument) (root : Option String) : Prop where
  root_type : document.isType = true →
    ∃ name node, root = some name ∧ document.toTypeNode "#" = .ok node
  sections_apart : document.AllApart
  types : ∀ path definition, document.Defines path definition →
    ∃ node, definition.toTypeNode (definitionLocation path) = .ok node
  nodup_name : ((document.registeredRoot root).toList ++
    (document.definitionsBelow []).map fun below => definitionName below.1).Nodup
  nodup_ident : (((document.registeredRoot root).map renderName).toList ++
    (document.definitionsBelow []).map fun below => renderPath below.1).Nodup

/-- The entry of the whole document. -/
def IsRootEntry (document : SchemaDocument) (root : Option String) (entry : TypeEntry) : Prop :=
  document.isType = true ∧ ∃ name node, root = some name ∧ document.toTypeNode "#" = .ok node ∧
    entry = ⟨name, [], node, renderName name⟩

/-- The entry of a definition inside the document. -/
def IsDefinitionEntry (document : SchemaDocument) (entry : TypeEntry) : Prop :=
  ∃ path definition node, document.Defines path definition ∧
    definition.toTypeNode (definitionLocation path) = .ok node ∧
    entry = ⟨definitionName path, path, node, renderPath path⟩

theorem rootEntry?_eq_ok_iff {document : SchemaDocument} {root : Option String}
    {first : Option TypeEntry} :
    document.rootEntry? root = .ok first ↔
      (document.isType = false ∧ first = none) ∨
        ∃ entry, first = some entry ∧ document.IsRootEntry root entry := by
  unfold rootEntry? IsRootEntry
  split
  next ht =>
    cases root with
    | none => simp [ht]
    | some name =>
      constructor
      · intro h
        obtain ⟨node, hn, rfl⟩ := exists_of_map_eq_ok h
        exact .inr ⟨_, rfl, ht, name, node, rfl, hn, rfl⟩
      · rintro (⟨hf, -⟩ | ⟨entry, rfl, -, other, node, he, hn, rfl⟩)
        · simp [ht] at hf
        · cases Option.some.inj he
          rw [hn]
          rfl
  next ht =>
    constructor
    · intro h
      exact .inl ⟨by simpa using ht, (Except.ok.inj h).symm⟩
    · rintro (⟨-, rfl⟩ | ⟨entry, -, hf, -⟩)
      · rfl
      · exact absurd hf ht

theorem definitionEntry_eq_ok_iff {definition : SchemaDocument} {path : List String}
    {entry : TypeEntry} :
    definition.definitionEntry path = .ok entry ↔
      ∃ node, definition.toTypeNode (definitionLocation path) = .ok node ∧
        entry = ⟨definitionName path, path, node, renderPath path⟩ := by
  constructor
  · intro h
    obtain ⟨node, hn, rfl⟩ := exists_of_map_eq_ok h
    exact ⟨node, hn, rfl⟩
  · rintro ⟨node, hn, rfl⟩
    rw [definitionEntry, hn]
    rfl

/-- The table of a document holds the type of the document, if it is one, and behind it those of the
definitions. -/
theorem toTypeTable_eq_ok_iff {document : SchemaDocument} {root : Option String}
    {table : TypeTable} :
    document.toTypeTable root = .ok table ↔ ∃ first entries,
      document.rootEntry? root = .ok first ∧
      document.definitionEntries [] = entries.map .ok ∧
      table.entries = first.toList ++ entries ∧ table.root = first.map TypeEntry.name := by
  unfold toTypeTable
  split
  next fault hr => simp [hr]
  next hr =>
    simp only [hr, Except.ok.injEq, TypeTable.insertAll_eq_ok_iff]
    constructor
    · rintro ⟨entries, he, ht, root⟩
      exact ⟨none, entries, rfl, he, ht, root⟩
    · rintro ⟨_, entries, rfl, he, ht, root⟩
      exact ⟨entries, he, ht, root⟩
  next entry hr =>
    simp only [hr, Except.ok.injEq, TypeTable.insertAll_eq_ok_iff]
    constructor
    · rintro ⟨entries, he, ht, root⟩
      exact ⟨some entry, entries, rfl, he, ht, root⟩
    · rintro ⟨_, entries, rfl, he, ht, root⟩
      exact ⟨entries, he, ht, root⟩

section

variable {document : SchemaDocument} {root : Option String} {first : Option TypeEntry}
  {entries : List TypeEntry}

theorem names_of_rootEntry? (h : document.rootEntry? root = .ok first) :
    first.map TypeEntry.name = document.registeredRoot root ∧
      first.map TypeEntry.ident = (document.registeredRoot root).map renderName := by
  unfold registeredRoot
  rcases rootEntry?_eq_ok_iff.mp h with ⟨ht, rfl⟩ | ⟨entry, rfl, ht, name, node, rfl, -, rfl⟩
  · simp [ht]
  · simp [ht]

/-- The entries of definitions are named after their paths. -/
theorem names_of_listed {below : List (List String × SchemaDocument)}
    (listed : ListsEntries below entries) :
    entries.map TypeEntry.name = below.map (fun below => definitionName below.1) ∧
      entries.map TypeEntry.ident = below.map (fun below => renderPath below.1) := by
  constructor
  · refine (map_eq_of_forall₂ listed fun below entry he => ?_).symm
    obtain ⟨node, -, rfl⟩ := definitionEntry_eq_ok_iff.mp he
    rfl
  · refine (map_eq_of_forall₂ listed fun below entry he => ?_).symm
    obtain ⟨node, -, rfl⟩ := definitionEntry_eq_ok_iff.mp he
    rfl

theorem names_of_definitionEntries (h : document.definitionEntries [] = entries.map .ok) :
    entries.map TypeEntry.name =
        (document.definitionsBelow []).map (fun below => definitionName below.1) ∧
      entries.map TypeEntry.ident =
        (document.definitionsBelow []).map (fun below => renderPath below.1) :=
  names_of_listed (definitionEntries_eq_ok_iff.mp h).2

theorem defines_of_mem {path : List String} {definition : SchemaDocument} :
    (path, definition) ∈ document.definitionsBelow [] ↔ document.Defines path definition := by
  rw [mem_definitionsBelow]
  simp

theorem mem_of_definitionEntries (h : document.definitionEntries [] = entries.map .ok)
    {entry : TypeEntry} : entry ∈ entries ↔ document.IsDefinitionEntry entry := by
  obtain ⟨-, listed⟩ := definitionEntries_eq_ok_iff.mp h
  constructor
  · intro hm
    obtain ⟨⟨path, definition⟩, hb, he⟩ := exists_left_of_forall₂ listed hm
    obtain ⟨node, hn, rfl⟩ := definitionEntry_eq_ok_iff.mp he
    exact ⟨path, definition, node, defines_of_mem.mp hb, hn, rfl⟩
  · rintro ⟨path, definition, node, hd, hn, rfl⟩
    obtain ⟨entry, hm, he⟩ := exists_right_of_forall₂ listed (defines_of_mem.mpr hd)
    rw [definitionEntry_eq_ok_iff.mpr ⟨node, hn, rfl⟩] at he
    exact Except.ok.inj he ▸ hm

theorem mem_of_rootEntry? (h : document.rootEntry? root = .ok first) {entry : TypeEntry} :
    entry ∈ first.toList ↔ document.IsRootEntry root entry := by
  rcases rootEntry?_eq_ok_iff.mp h with ⟨type, rfl⟩ | ⟨found, rfl, hf⟩
  · simp [IsRootEntry, type]
  · rw [Option.toList_some, List.mem_singleton]
    constructor
    · rintro rfl
      exact hf
    · intro other
      obtain ⟨-, name, node, rfl, hn, rfl⟩ := hf
      obtain ⟨-, name, node, hroot, hn', rfl⟩ := other
      cases Option.some.inj hroot
      cases Except.ok.inj (hn.symm.trans hn')
      rfl

/-- A table holds the types of the document and of its definitions and nothing else. -/
theorem mem_of_toTypeTable {table : TypeTable} (h : document.toTypeTable root = .ok table)
    {entry : TypeEntry} :
    entry ∈ table.entries ↔ document.IsRootEntry root entry ∨ document.IsDefinitionEntry entry := by
  obtain ⟨first, entries, hr, he, ht, -⟩ := toTypeTable_eq_ok_iff.mp h
  rw [ht, List.mem_append, mem_of_rootEntry? hr, mem_of_definitionEntries he]

end

/-- The types of a document make a table exactly if they are types and their names differ. -/
theorem exists_toTypeTable_iff {document : SchemaDocument} {root : Option String} :
    (∃ table, document.toTypeTable root = .ok table) ↔ document.Flattens root := by
  constructor
  · rintro ⟨table, h⟩
    obtain ⟨first, entries, hr, he, ht, -⟩ := toTypeTable_eq_ok_iff.mp h
    obtain ⟨apart, listed⟩ := definitionEntries_eq_ok_iff.mp he
    obtain ⟨rootName, rootIdent⟩ := names_of_rootEntry? hr
    obtain ⟨names, idents⟩ := names_of_definitionEntries he
    refine ⟨fun type => ?_, apart, fun path definition hd => ?_, ?_, ?_⟩
    · rcases rootEntry?_eq_ok_iff.mp hr with ⟨hf, -⟩ | ⟨entry, -, -, name, node, hn, hl, -⟩
      · simp [type] at hf
      · exact ⟨name, node, hn, hl⟩
    · obtain ⟨entry, -, he⟩ := exists_right_of_forall₂ listed (defines_of_mem.mpr hd)
      obtain ⟨node, hn, -⟩ := definitionEntry_eq_ok_iff.mp he
      exact ⟨node, hn⟩
    · rw [← rootName, ← names, Option.toList_map, ← List.map_append, ← ht]
      exact table.nodup_name
    · rw [← rootIdent, ← idents, Option.toList_map, ← List.map_append, ← ht]
      exact table.nodup_ident
  · rintro ⟨rootType, apart, types, nodupName, nodupIdent⟩
    obtain ⟨first, hr⟩ : ∃ first, document.rootEntry? root = .ok first := by
      cases type : document.isType with
      | false => exact ⟨none, rootEntry?_eq_ok_iff.mpr (.inl ⟨type, rfl⟩)⟩
      | true =>
        obtain ⟨name, node, hn, hl⟩ := rootType type
        exact ⟨_, rootEntry?_eq_ok_iff.mpr (.inr ⟨_, rfl, type, name, node, hn, hl, rfl⟩)⟩
    have each : ∀ below ∈ document.definitionsBelow [],
        ∃ entry, below.2.definitionEntry below.1 = .ok entry := by
      rintro ⟨path, definition⟩ hb
      obtain ⟨node, hn⟩ := types path definition (defines_of_mem.mp hb)
      exact ⟨_, definitionEntry_eq_ok_iff.mpr ⟨node, hn, rfl⟩⟩
    obtain ⟨entries, listed⟩ := exists_forall₂ each
    have he := definitionEntries_eq_ok_iff.mpr ⟨apart, listed⟩
    obtain ⟨rootName, rootIdent⟩ := names_of_rootEntry? hr
    obtain ⟨names, idents⟩ := names_of_definitionEntries he
    rw [← rootName, ← names, Option.toList_map, ← List.map_append] at nodupName
    rw [← rootIdent, ← idents, Option.toList_map, ← List.map_append] at nodupIdent
    exact ⟨⟨first.toList ++ entries, first.map TypeEntry.name, nodupName, nodupIdent⟩,
      toTypeTable_eq_ok_iff.mpr ⟨first, entries, hr, he, rfl, rfl⟩⟩

/-- The types of a document make a table exactly if they are types, no definition is repeated and
their names and identifiers differ. The table then has one entry for each definition at any depth
and one for the document if it is a type, each under its own name, and no others. -/
theorem toTypeTable_exact (document : SchemaDocument) (root : Option String) :
    ((∃ table, document.toTypeTable root = .ok table) ↔ document.Flattens root) ∧
    ∀ table, document.toTypeTable root = .ok table →
      table.root = document.registeredRoot root ∧
      (∀ path definition, (path, definition) ∈ document.definitionsBelow [] ↔
        document.Defines path definition) ∧
      table.size = (document.definitionsBelow []).length + (if document.isType then 1 else 0) ∧
      ∀ name entry, table.get? name = some entry ↔ entry.name = name ∧
        (document.IsRootEntry root entry ∨ document.IsDefinitionEntry entry) := by
  refine ⟨exists_toTypeTable_iff, fun table h => ?_⟩
  obtain ⟨first, entries, hr, he, ht, hroot⟩ := toTypeTable_eq_ok_iff.mp h
  obtain ⟨rootName, -⟩ := names_of_rootEntry? hr
  refine ⟨hroot.trans rootName, fun _ _ => defines_of_mem, ?_, fun name entry => ?_⟩
  · have count := congrArg List.length (names_of_definitionEntries he).1
    simp only [List.length_map] at count
    rw [TypeTable.size, ht, List.length_append, count]
    rcases rootEntry?_eq_ok_iff.mp hr with ⟨type, rfl⟩ | ⟨entry, rfl, type, -⟩
    · simp [type]
    · simp [type, Nat.add_comm]
  · rw [TypeTable.get?_eq_some_iff, mem_of_toTypeTable h, and_comm]

/-- A shelf with books, which have pages of their own, and a definition with a slash in its name. -/
def shelfDocument : SchemaDocument where
  typeNames := some (.one "string")
  definitions := some [
    ("book", {
      properties := some []
      defs := some [("page", { typeNames := some (.one "integer") })] })]
  defs := some [("a/b", { typeNames := some (.one "boolean") })]

def shelfTable : TypeTable where
  entries := [
    ⟨"shelf", [], .string {}, "Shelf"⟩,
    ⟨"book", ["book"], .object [] none, "Book"⟩,
    ⟨"book/page", ["book", "page"], .integer ⟨none, none, none⟩, "BookPage"⟩,
    ⟨"a/b", ["a/b"], .boolean, "A/b"⟩]
  root := some "shelf"
  nodup_name := by decide
  nodup_ident := by decide

theorem toTypeTable_exact_shelf : shelfDocument.toTypeTable (some "shelf") = .ok shelfTable ∧
    shelfDocument.Flattens (some "shelf") ∧
    (shelfDocument.definitionsBelow []).length = 3 ∧
    shelfDocument.IsDefinitionEntry
      ⟨"book/page", ["book", "page"], .integer ⟨none, none, none⟩, "BookPage"⟩ := by
  have flat : shelfDocument.toTypeTable (some "shelf") = .ok shelfTable := by cbv
  obtain ⟨flattens, exact⟩ := toTypeTable_exact shelfDocument (some "shelf")
  obtain ⟨-, -, size, found⟩ := exact shelfTable flat
  have counted : 4 = (shelfDocument.definitionsBelow []).length + 1 := size
  have page := (found "book/page"
    ⟨"book/page", ["book", "page"], .integer ⟨none, none, none⟩, "BookPage"⟩).mp (by cbv)
  refine ⟨flat, flattens.mp ⟨_, flat⟩, by omega, page.2.resolve_left ?_⟩
  rintro ⟨-, name, node, -, -, he⟩
  cases congrArg TypeEntry.path he

end SchemaDocument

end CheckedTypes
