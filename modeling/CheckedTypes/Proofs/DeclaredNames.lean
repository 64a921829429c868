import CheckedTypes.Proofs.PackageRows
import CheckedTypes.Proofs.PatternRegistry
import CheckedTypes.Proofs.RenderedName

namespace CheckedTypes

open CodeWriter

/-- The names that an item declares in a Go file. -/
def FileItem.goNames : FileItem → List String
  | .enumeration ident values =>
    ident :: (values.map (fun value => ident ++ renderName value) ++ ["enumValues" ++ ident])
  | .type ident _ _ _ => [ident]

/-- What an item declares can be read from its rows. -/
def FileItem.IsReadable : FileItem → Prop
  | .enumeration ident values => IsWord ident ∧ ∀ value ∈ values, IsWord (ident ++ renderName value)
  | .type ident declaration _ _ => IsWord ident ∧ Reads (textLines declaration.toList) [ident]

namespace SourceDraft

variable {draft result : SourceDraft} {names : List String}

theorem addItem_declares {item : FileItem} (readable : item.IsReadable)
    (ht : draft.file.target = .go) (hd : draft.file.declarations.Declares names)
    (h : draft.addItem .go item = .ok result) :
    result.file.target = .go ∧
      result.file.declarations.Declares (names ++ item.goNames) := by
  cases item with
  | enumeration ident values =>
    obtain ⟨file, hf, rfl⟩ := exists_of_map_eq_ok h
    obtain ⟨members, hm, rfl⟩ := exists_of_map_eq_ok hf
    obtain ⟨word, constants⟩ := readable
    have members_eq := enumMembers_eq hm
    have done := hd.goEnum members word fun member hmem => by
      rw [members_eq] at hmem
      obtain ⟨value, hv, rfl⟩ := List.mem_map.mp hmem
      exact constants value hv
    simp only [FileParts.addExport, ht]
    refine ⟨trivial, ?_⟩
    rw [members_eq, List.map_map] at done
    rw [members_eq]
    exact done
  | type ident declaration patterns checks =>
    cases Except.ok.inj h
    obtain ⟨word, reads⟩ := readable
    obtain ⟨target, same, -⟩ := FileParts.addPatterns_frame
      (draft.file.addExport ident) draft.patterns patterns
    have target := target.trans ht
    have same : (FileParts.addPatterns (draft.file.addExport ident) draft.patterns
      patterns).declarations = draft.file.declarations := same
    have declared := hd.separate.embed reads
    cases checks with
    | none =>
      refine ⟨by simpa [FileParts.addType] using target, ?_⟩
      simpa [FileParts.addType, same, FileItem.goNames] using declared
    | some checks =>
      refine ⟨by simp [FileParts.addType, target], ?_⟩
      simpa [FileParts.addType, target, same, FileItem.goNames] using
        declared.goValidator word.no_newline (validatorText .go checks)

theorem addItems_declares {items : List FileItem} (readable : ∀ item ∈ items, item.IsReadable)
    (ht : draft.file.target = .go) (hd : draft.file.declarations.Declares names)
    (h : draft.addItems .go items = .ok result) :
    result.file.target = .go ∧
      result.file.declarations.Declares (names ++ items.flatMap FileItem.goNames) := by
  induction items generalizing draft names with
  | nil =>
    cases Except.ok.inj h
    exact ⟨ht, by rwa [List.flatMap_nil, List.append_nil]⟩
  | cons item rest ih =>
    obtain ⟨first, others⟩ := List.forall_mem_cons.mp readable
    rw [addItems] at h
    split at h
    next => cases h
    next between hb =>
      obtain ⟨target, declared⟩ := addItem_declares first ht hd hb
      rw [List.flatMap_cons, ← List.append_assoc]
      exact ih others target declared h

end SourceDraft

/-- The constants of an enumeration. -/
def TypeEntry.constants (entry : TypeEntry) : List String :=
  match entry.node with
  | .enumeration values => values.map fun value => entry.ident ++ renderName value
  | _ => []

/-- The names that a type of a table declares in a Go file. -/
def TypeEntry.goNames (entry : TypeEntry) : List String :=
  entry.ident ::
    (entry.constants ++ if entry.node.isEnumeration then ["enumValues" ++ entry.ident] else [])

/-- The names that a Go file declares for a table: those of every file, the patterns, and the types
by name with what belongs to them. -/
def TypeTable.goNames (table : TypeTable) : List String :=
  supportNames ++ (List.range table.patternPlaces.length).map patternVariable ++
    table.sortedEntries.flatMap TypeEntry.goNames

/-- No name from which identifiers are made has a blank or is spread over lines. -/
structure TypeTable.NamesAreWords (table : TypeTable) : Prop extends table.NamesOnOneLine where
  nonempty : ∀ entry ∈ table.entries, entry.ident ≠ ""
  no_blank : ∀ entry ∈ table.entries, ' ' ∉ entry.ident.toList
  value : ∀ entry ∈ table.entries, ∀ values, entry.node = .enumeration values →
    ∀ value ∈ values, ' ' ∉ value.toList

theorem isWord_patternVariable (index : Nat) : IsWord (patternVariable index) where
  nonempty := by simp [patternVariable]
  no_blank := by
    simp only [patternVariable, String.toList_append, List.mem_append,
      not_mem_toString (c := ' ') (by decide)]
    simp
  no_newline := newline_not_mem_patternVariable index

theorem reads_patternLines (next : Nat) (patterns : List String) :
    Reads (Target.go.patternLines next patterns)
      ((List.range' next patterns.length).map patternVariable) := by
  induction patterns generalizing next with
  | nil => exact .nil
  | cons pattern rest ih =>
    have line : Target.go.patternLine next pattern = "var ".toList ++
        ((patternVariable next).toList ++
          ' ' :: ("= regexp.MustCompile(" ++ quote pattern ++ ")").toList) := by
      simp [Target.patternLine, Target.patternDeclaration]
    have alone : Reads [Target.go.patternLine next pattern]
        (declaredName? (Target.go.patternLine next pattern)).toList :=
      .of_row (by rw [line]; simp [opensGroup, List.isPrefixOf])
    rw [line, declaredName?_var (isWord_patternVariable next), ← line] at alone
    have numbered : Target.go.patternLines next (pattern :: rest) =
        Target.go.patternLine next pattern :: Target.go.patternLines (next + 1) rest :=
      numbered_append next Target.go.patternLine [pattern] rest
    rw [numbered]
    exact alone.append (ih (next + 1))

namespace EmissionContext

variable {context : EmissionContext} {next : Nat} {entry : TypeEntry} {item : FileItem}
  {entries : List TypeEntry} {items : List FileItem}

theorem EmitsItem.goNames_eq (h : context.EmitsItem next entry item) :
    item.goNames = entry.goNames := by
  cases h with
  | enumeration hn =>
    simp [FileItem.goNames, TypeEntry.goNames, TypeEntry.constants, hn, TypeNode.isEnumeration]
  | type kind =>
    have none : entry.constants = [] := by
      unfold TypeEntry.constants
      split
      next values hn => simp [hn, TypeNode.isEnumeration] at kind
      next => rfl
    simp [FileItem.goNames, TypeEntry.goNames, none, kind]

theorem EmitsItems.goNames_eq (h : context.EmitsItems next entries items) :
    items.flatMap FileItem.goNames = entries.flatMap TypeEntry.goNames := by
  induction h with
  | nil => rfl
  | cons first _ ih => rw [List.flatMap_cons, List.flatMap_cons, first.goNames_eq, ih]

/-- The rows of a declaration declare its type: the first does, and the others are inside. -/
theorem reads_declaration (ht : context.target = .go) (names : context.table.NamesAreWords)
    (hm : entry ∈ context.table.entries) {result : Bool × List Statement}
    (h : (context.emit next entry.node).outcome = .ok result) :
    Reads (textLines (context.declaration entry (context.emit next entry.node)).toList)
      [entry.ident] := by
  have word : IsWord entry.ident :=
    ⟨names.nonempty entry hm, names.no_blank entry hm, names.ident entry hm⟩
  let mark := ("type " ++ entry.ident ++ " ").toList
  have begins := context.begins_declaration ht entry (context.emit next entry.node)
  have plain : '\n' ∉ mark := by simp [mark, word.no_newline]
  have ends : '\n' ∈ (context.declaration entry (context.emit next entry.node)).toList := by
    simp [declaration, CodeWriter.newline]
  obtain ⟨more, rest, rows⟩ := exists_first_line begins plain ends
  have first : mark ++ more = "type ".toList ++ (entry.ident.toList ++ ' ' :: more) := by
    simp [mark]
  have named : Reads [mark ++ more] (declaredName? (mark ++ more)).toList :=
    .of_row (by rw [first]; simp [opensGroup, List.isPrefixOf])
  rw [first, declaredName?_type word, ← first] at named
  have inner : ∀ row ∈ rest, isSilent row = true := fun row hr =>
    isSilent_of_head? fun c letter =>
      head?_declaration ht names.toNamesOnOneLine.ident word.no_newline (names.name entry hm) h
        letter (by rw [rows]; exact hr)
  rw [rows]
  exact named.trimmed.append (.silent inner)

theorem EmitsItem.isReadable (h : context.EmitsItem next entry item)
    (ht : context.target = .go) (names : context.table.NamesAreWords)
    (hm : entry ∈ context.table.entries) : item.IsReadable := by
  have word : IsWord entry.ident :=
    ⟨names.nonempty entry hm, names.no_blank entry hm, names.ident entry hm⟩
  cases h with
  | @enumeration values hn =>
    refine ⟨word, fun value hv => word.append ?_ ?_⟩
    · intro blank
      exact names.value entry hm values hn value hv
        (mem_of_mem_renderName blank (by decide) (by decide)).1
    · refine newline_not_mem_renderName (names.name entry hm entry.node .here value ?_)
      rw [hn]
      exact hv
  | type _ emits =>
    let current := { context with current := entry.name }
    have reads := @reads_declaration current next entry ht names hm _ emits.outcome
    exact ⟨word, reads⟩

end EmissionContext

/-- What is read from a Go file are the names that its table declares. -/
theorem TypeTable.Renders.packageNames_eq {table : TypeTable} {modulePath text : String}
    {validated : List String} {items : List FileItem} {file : FileParts}
    (h : table.Renders .go modulePath text validated items file) (names : table.NamesAreWords)
    (plain : '\n' ∉ modulePath.toList) : packageNames text = table.goNames := by
  obtain ⟨-, emits, ⟨count, written⟩, rfl⟩ := h
  have readable : ∀ item ∈ items, item.IsReadable := by
    intro item hi
    obtain ⟨next, entry, hm, emitted⟩ := emits.exists_entry hi
    exact emitted.isReadable rfl names (mem_sortedEntries.mp hm)
  obtain ⟨target, declarations⟩ :=
    SourceDraft.addItems_declares readable rfl declares_empty written
  have registers := (SourceDraft.registers_empty .go).addItems written
  have globals : file.globals.Declares
      ((List.range' 0 (items.flatMap FileItem.patterns).length).map patternVariable) :=
    ⟨_, registers.shows, reads_patternLines 0 _⟩
  have whole : (file.goFile modulePath).Declares _ :=
    ((declares_goHead target plain).writeSection globals).writeSection declarations
  obtain ⟨rows, shows, reads⟩ := whole
  have read := reads.trimmed []
  rw [emits.patterns_eq, List.length_map, emits.goNames_eq] at read
  rw [CheckedTypes.packageNames, FileParts.assemble, target]
  dsimp only
  rw [shows.text_eq, textLines_joinLines shows.plain]
  simpa [readNames, goNames, TypeTable.patternPlaces, List.range_eq_range'] using read

end CheckedTypes
