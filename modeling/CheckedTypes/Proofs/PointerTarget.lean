import CheckedTypes.Proofs.DefinitionPointer

namespace CheckedTypes

/-- A text is its parts with the separator before each but the first. -/
theorem exists_splitOn (separator : Char) (text : List Char) : ∃ part parts,
    splitOn separator text = part :: parts ∧
      text = part ++ parts.flatMap fun other => separator :: other := by
  induction text with
  | nil => exact ⟨[], [], rfl, rfl⟩
  | cons c rest ih =>
    obtain ⟨part, parts, hs, rfl⟩ := ih
    by_cases hc : c = separator
    · subst hc
      exact ⟨[], part :: parts, by rw [splitOn, if_pos rfl, hs], rfl⟩
    · exact ⟨c :: part, parts, by rw [splitOn, if_neg hc, hs], rfl⟩

theorem eq_of_splitOn {separator : Char} {text part : List Char}
    (h : splitOn separator text = [part]) : text = part := by
  obtain ⟨first, parts, hs, rfl⟩ := exists_splitOn separator text
  obtain ⟨rfl, rfl⟩ := List.cons.inj (hs.symm.trans h)
  exact List.append_nil first

/-- The names that a pointer into the document goes through. -/
def pointerPath? (pointer : String) : Option (List String) :=
  match splitOn '/' pointer.toList with
  | ['#'] :: tokens => definitionPath? tokens
  | _ => none

theorem pointerPath?_definitionPointer (steps : List (DefinitionSection × String)) :
    pointerPath? (definitionPointer steps) = some (steps.map Prod.snd) := by
  rw [pointerPath?, splitOn_definitionPointer]
  exact definitionPath?_pointerTokens steps

theorem definitionPath?_eq_nil {tokens : List (List Char)} (h : definitionPath? tokens = some []) :
    tokens = [] := by
  rw [definitionPath?.eq_def] at h
  split at h
  next => rfl
  next => cases h
  next =>
    split at h
    next => simp at h
    next => cases h

theorem definitionName_toList (first : String) (rest : List String) :
    (definitionName (first :: rest)).toList =
      first.toList ++ (rest.map String.toList).flatMap fun name => '/' :: name := by
  induction rest generalizing first with
  | nil => simp [definitionName]
  | cons second rest ih =>
    have step : (definitionName (first :: second :: rest)).toList =
        first.toList ++ '/' :: (definitionName (second :: rest)).toList := by
      simp [definitionName, String.toList_intercalate]
    rw [step, ih, List.map_cons, List.flatMap_cons, List.cons_append]

theorem slash_mem_definitionName {first second : String} (rest : List String) :
    '/' ∈ (definitionName (first :: second :: rest)).toList := by
  simp [definitionName_toList]

/-- Without slashes in its names a path can be read off from the name of the definition. -/
theorem splitOn_definitionName {path : List String} (some_name : path ≠ [])
    (plain : ∀ name ∈ path, '/' ∉ name.toList) :
    splitOn '/' (definitionName path).toList = path.map String.toList := by
  obtain ⟨first, rest, rfl⟩ := List.exists_cons_of_ne_nil some_name
  rw [definitionName_toList, splitOn_flatMap (plain first List.mem_cons_self)]
  · rfl
  · intro other ho
    obtain ⟨name, hn, rfl⟩ := List.mem_map.mp ho
    exact plain name (List.mem_cons_of_mem _ hn)

/-- Paths with one name between them have a slash inside one of theirs. -/
theorem exists_slash_of_definitionName_eq {path other : List String} (some_name : path ≠ [])
    (another : other ≠ []) (same : definitionName path = definitionName other)
    (apart : path ≠ other) : ∃ name ∈ path ++ other, '/' ∈ name.toList := by
  by_contra! plain
  obtain ⟨hp, ho⟩ := List.forall_mem_append.mp plain
  have parts : path.map String.toList = other.map String.toList := by
    rw [← splitOn_definitionName some_name hp, same, splitOn_definitionName another ho]
  exact apart (List.map_injective_iff.mpr (fun _ _ => String.toList_inj.mp) parts)

/-- A pointer into the document leads to the type that goes by the names on its way, joined. -/
theorem TypeTable.resolve_eq_ok_iff {table : TypeTable} {pointer : String} (inner : pointer ≠ "#")
    {entry : TypeEntry} : table.resolve pointer = .ok entry ↔ ∃ path, path ≠ [] ∧
      pointerPath? pointer = some path ∧ table.get? (definitionName path) = some entry := by
  unfold resolve
  split
  next tokens hs =>
    have some_token : tokens ≠ [] := by
      rintro rfl
      exact inner (String.toList_inj.mp (eq_of_splitOn hs))
    have read : pointerPath? pointer = definitionPath? tokens := by
      rw [pointerPath?, hs]
      rfl
    rw [read]
    split
    next malformed => simp [malformed]
    next path hp =>
      have some_name : path ≠ [] := by
        rintro rfl
        exact some_token (definitionPath?_eq_nil hp)
      have first : tokens.isEmpty = false := by simpa using some_token
      simp only [first, Bool.false_eq_true, if_false, Option.bind_some, hp, Option.some.injEq]
      cases hg : table.get? (definitionName path) <;> simp [hg, some_name]
  next _ foreign =>
    have unread : pointerPath? pointer = none := by
      unfold pointerPath?
      split
      next tokens hs => exact absurd hs (foreign tokens)
      next => rfl
    simp [unread]

namespace SchemaDocument

variable {document : SchemaDocument} {root : Option String} {table : TypeTable}

theorem defines_of_mem_entries (h : document.toTypeTable root = .ok table) {entry : TypeEntry}
    (hm : entry ∈ table.entries) (inner : entry.path ≠ []) :
    ∃ definition, document.Defines entry.path definition := by
  rcases (mem_of_toTypeTable h).mp hm with
    ⟨-, name, node, -, -, rfl⟩ | ⟨path, definition, node, defined, -, rfl⟩
  · exact absurd rfl inner
  · exact ⟨definition, defined⟩

/-- Every definition has its entry. -/
theorem exists_entry_of_defines (h : document.toTypeTable root = .ok table) {path : List String}
    {definition : SchemaDocument} (defined : document.Defines path definition) :
    ∃ entry ∈ table.entries, entry.path = path ∧ entry.name = definitionName path := by
  obtain ⟨node, hn⟩ := (exists_toTypeTable_iff.mp ⟨table, h⟩).types path definition defined
  exact ⟨_, (mem_of_toTypeTable h).mpr (.inr ⟨path, definition, node, defined, hn, rfl⟩), rfl, rfl⟩

theorem root_of_mem_entries (h : document.toTypeTable root = .ok table) {entry : TypeEntry}
    (hm : entry ∈ table.entries) (outer : entry.path = []) : table.root = some entry.name := by
  obtain ⟨first, entries, hr, -, -, hroot⟩ := toTypeTable_eq_ok_iff.mp h
  rcases (mem_of_toTypeTable h).mp hm with whole | ⟨path, definition, node, defined, -, rfl⟩
  · rw [← mem_of_rootEntry? hr, Option.mem_toList] at whole
    rw [hroot, whole, Option.map_some]
  · cases outer
    cases defined

/-- A reference leads to the definition on its path if there is one, and otherwise to the type that
happens to have the same name: that of the document, or of a definition where a slash inside a
name looks like one between two. -/
theorem resolve_denotes (h : document.toTypeTable root = .ok table) {pointer : String}
    (inner : pointer ≠ "#") {entry : TypeEntry} (resolved : table.resolve pointer = .ok entry) :
    ∃ path, path ≠ [] ∧ pointerPath? pointer = some path ∧
      table.get? (definitionName path) = some entry ∧
      (entry.path = path ↔ ∃ definition, document.Defines path definition) ∧
      (entry.path ≠ path →
        entry.path = [] ∧ table.root = some (definitionName path) ∨
        entry.path ≠ [] ∧ definitionName entry.path = definitionName path ∧
          ∃ name ∈ path ++ entry.path, '/' ∈ name.toList) := by
  obtain ⟨path, some_name, hp, found⟩ := (TypeTable.resolve_eq_ok_iff inner).mp resolved
  obtain ⟨hm, named⟩ := TypeTable.get?_eq_some_iff.mp found
  refine ⟨path, some_name, hp, found, ⟨?_, ?_⟩, fun apart => ?_⟩
  · rintro rfl
    exact defines_of_mem_entries h hm some_name
  · rintro ⟨definition, defined⟩
    obtain ⟨other, ho, rfl, name⟩ := exists_entry_of_defines h defined
    rw [List.inj_on_of_nodup_map table.nodup_name hm ho (named.trans name.symm)]
  · by_cases outer : entry.path = []
    · exact .inl ⟨outer, named ▸ root_of_mem_entries h hm outer⟩
    · have same : definitionName entry.path = definitionName path :=
        (name_of_toTypeTable h hm outer).symm.trans named
      exact .inr ⟨outer, same,
        exists_slash_of_definitionName_eq some_name outer same.symm (Ne.symm apart)⟩

/-- A page is found under the two names on its way, and under one that only looks like them. -/
theorem resolve_denotes_shelf :
    shelfTable.resolve "#/definitions/book/$defs/page" =
      .ok ⟨"book/page", ["book", "page"], .integer ⟨none, none, none⟩, "BookPage"⟩ ∧
    (∃ definition, shelfDocument.Defines ["book", "page"] definition) ∧
    shelfTable.resolve "#/definitions/book~1page" =
      .ok ⟨"book/page", ["book", "page"], .integer ⟨none, none, none⟩, "BookPage"⟩ ∧
    ¬∃ definition, shelfDocument.Defines ["book/page"] definition := by
  have flat : shelfDocument.toTypeTable (some "shelf") = .ok shelfTable := by cbv
  have nested : shelfTable.resolve "#/definitions/book/$defs/page" =
      .ok ⟨"book/page", ["book", "page"], .integer ⟨none, none, none⟩, "BookPage"⟩ := by cbv
  have joined : shelfTable.resolve "#/definitions/book~1page" =
      .ok ⟨"book/page", ["book", "page"], .integer ⟨none, none, none⟩, "BookPage"⟩ := by cbv
  obtain ⟨path, -, hp, -, there, -⟩ := resolve_denotes flat (by decide) nested
  obtain ⟨other, -, ho, -, elsewhere, -⟩ := resolve_denotes flat (by decide) joined
  have two : pointerPath? "#/definitions/book/$defs/page" = some ["book", "page"] := by cbv
  have one : pointerPath? "#/definitions/book~1page" = some ["book/page"] := by cbv
  cases Option.some.inj (two.symm.trans hp)
  cases Option.some.inj (one.symm.trans ho)
  exact ⟨nested, there.mp rfl, joined, fun defined => absurd (elsewhere.mpr defined) (by decide)⟩

/-- The name of the whole document leads to it, though no definition has that name, and a slash
inside a name leads to a definition inside another. -/
theorem resolve_elsewhere_shelf : shelfDocument.toTypeTable (some "shelf") = .ok shelfTable ∧
    (shelfTable.resolve "#/definitions/shelf" = .ok ⟨"shelf", [], .string {}, "Shelf"⟩ ∧
      pointerPath? "#/definitions/shelf" = some ["shelf"]) ∧
    (shelfTable.resolve "#/definitions/book~1page" =
        .ok ⟨"book/page", ["book", "page"], .integer ⟨none, none, none⟩, "BookPage"⟩ ∧
      pointerPath? "#/definitions/book~1page" = some ["book/page"]) ∧
    ¬∀ pointer entry, pointer ≠ "#" → shelfTable.resolve pointer = .ok entry →
      pointerPath? pointer = some entry.path := by
  have whole : shelfTable.resolve "#/definitions/shelf" =
      .ok ⟨"shelf", [], .string {}, "Shelf"⟩ := by cbv
  have named : pointerPath? "#/definitions/shelf" = some ["shelf"] := by cbv
  refine ⟨by cbv, ⟨whole, named⟩, ⟨by cbv, by cbv⟩, fun exact => ?_⟩
  cases named.symm.trans (exact _ _ (by decide) whole)

end SchemaDocument

end CheckedTypes
