import CheckedTypes.Proofs.DeclaredNames
import CheckedTypes.Proofs.IdentLookup

namespace CheckedTypes

/-- A name that does not begin with a lower-case letter, as those of types and constants. -/
def IsUpper (name : String) : Prop :=
  ∀ c ∈ name.toList.head?, c.isLower = false

/-- The three ways in which names of a Go file can be the same do not occur: a type or a constant
is called like a helper, a constant like a type, or constants of two enumerations like each
other. -/
structure TypeTable.NamesApart (table : TypeTable) : Prop where
  helpers : ∀ entry ∈ table.entries, ∀ name ∈ entry.ident :: entry.constants, name ∉ supportNames
  types : ∀ entry ∈ table.entries, ∀ name ∈ entry.constants, ∀ other ∈ table.entries,
    other.ident ≠ name
  constants : ∀ entry ∈ table.entries, ∀ other ∈ table.entries, entry ≠ other →
    ∀ name ∈ entry.constants, name ∉ other.constants

theorem patternVariable_injective : Function.Injective patternVariable :=
  fun _ _ h => Nat.repr_injective ((String.append_right_inj _).mp h)

theorem not_isUpper_patternVariable (index : Nat) : ¬IsUpper (patternVariable index) := by
  intro upper
  exact absurd (upper 's' (by simp [patternVariable])) (by decide)

theorem not_isUpper_enumValues (ident : String) : ¬IsUpper ("enumValues" ++ ident) := by
  intro upper
  exact absurd (upper 'e' (by simp)) (by decide)

/-- No helper has a name of those made by counting or from the name of an enumeration. -/
theorem helper_apart {helper : String} (h : helper ∈ supportNames) :
    (∀ index, helper ≠ patternVariable index) ∧ ∀ ident, helper ≠ "enumValues" ++ ident := by
  have prefixes : ∀ helper ∈ supportNames, ¬"stringRegex".toList <+: helper.toList ∧
      ¬"enumValues".toList <+: helper.toList := by
    decide +kernel
  obtain ⟨counted, listed⟩ := prefixes helper h
  constructor
  · rintro index rfl
    exact counted (by simp [patternVariable])
  · rintro ident rfl
    exact listed (by simp)

namespace TypeEntry

variable {entry other : TypeEntry} {name : String}

theorem mem_goNames : name ∈ entry.goNames ↔ name ∈ entry.ident :: entry.constants ∨
    entry.node.isEnumeration = true ∧ name = "enumValues" ++ entry.ident := by
  unfold goNames
  cases entry.node.isEnumeration <;> simp [or_assoc]

theorem isUpper_of_mem (h : IsRendered entry.ident.toList)
    (hn : name ∈ entry.ident :: entry.constants) : IsUpper name := by
  rcases List.mem_cons.mp hn with rfl | hn
  · exact h.no_lower
  · unfold constants at hn
    split at hn
    next values _ =>
      obtain ⟨value, -, rfl⟩ := List.mem_map.mp hn
      have upper := (h.append (isRendered_renderName value)).no_lower
      rwa [← String.toList_append] at upper
    next => cases hn

/-- The names that belong to one type differ if its constants are not called like it. -/
theorem nodup_goNames (h : IsRendered entry.ident.toList) (apart : entry.ident ∉ entry.constants)
    (distinct : entry.constants.Nodup) : entry.goNames.Nodup := by
  have upper : (entry.ident :: entry.constants).Nodup := List.nodup_cons.mpr ⟨apart, distinct⟩
  unfold goNames
  rw [← List.cons_append]
  refine List.nodup_append.mpr ⟨upper, by split <;> simp, ?_⟩
  rintro name hn listed hl rfl
  split at hl
  next =>
    rw [List.mem_singleton.mp hl] at hn
    exact not_isUpper_enumValues entry.ident (isUpper_of_mem h hn)
  next => cases hl

/-- The names that belong to different types differ if no constant of one is called like the other
or like a constant of the other. -/
theorem disjoint_goNames (h : IsRendered entry.ident.toList)
    (h' : IsRendered other.ident.toList) (differ : entry.ident ≠ other.ident)
    (fresh : other.ident ∉ entry.constants) (fresh' : entry.ident ∉ other.constants)
    (constants : ∀ name ∈ entry.constants, name ∉ other.constants) :
    List.Disjoint entry.goNames other.goNames := by
  intro name hn hn'
  rcases mem_goNames.mp hn with own | ⟨-, listed⟩ <;>
    rcases mem_goNames.mp hn' with theirs | ⟨-, listed'⟩
  · rcases List.mem_cons.mp own with rfl | constant <;>
      rcases List.mem_cons.mp theirs with same | constant'
    · exact differ same
    · exact fresh' constant'
    · exact fresh (same ▸ constant)
    · exact constants name constant constant'
  · exact not_isUpper_enumValues other.ident (listed' ▸ isUpper_of_mem h own)
  · exact not_isUpper_enumValues entry.ident (listed ▸ isUpper_of_mem h' theirs)
  · exact differ ((String.append_right_inj _).mp (listed.symm.trans listed'))

end TypeEntry

namespace TypeTable

variable {table : TypeTable}

theorem WellFormed.nodup_constants (wf : table.WellFormed) {entry : TypeEntry}
    (hm : entry ∈ table.entries) : entry.constants.Nodup := by
  unfold TypeEntry.constants
  split
  next values hn =>
    have members := wf.enumerations entry hm values hn
    have prefixed : Function.Injective fun member => entry.ident ++ member :=
      fun _ _ same => (String.append_right_inj _).mp same
    have constants := members.map prefixed
    rwa [List.map_map] at constants
  next => exact List.nodup_nil

theorem nodup_sortedEntries : table.sortedEntries.Nodup :=
  (table.sortedEntries_perm.nodup_iff).mpr table.nodup_ident.of_map

/-- What belongs to types is declared once if constants are neither called like types nor like
those of another enumeration. -/
theorem nodup_types_iff (rendered : ∀ entry ∈ table.entries, IsRendered entry.ident.toList)
    (wf : table.WellFormed) : (table.sortedEntries.flatMap TypeEntry.goNames).Nodup ↔
      (∀ entry ∈ table.entries, ∀ name ∈ entry.constants, ∀ other ∈ table.entries,
        other.ident ≠ name) ∧
      ∀ entry ∈ table.entries, ∀ other ∈ table.entries, entry ≠ other →
        ∀ name ∈ entry.constants, name ∉ other.constants := by
  have constant_mem {entry : TypeEntry} {name : String} (hn : name ∈ entry.constants) :
      name ∈ entry.goNames :=
    TypeEntry.mem_goNames.mpr (.inl (List.mem_cons_of_mem _ hn))
  have ident_mem (entry : TypeEntry) : entry.ident ∈ entry.goNames :=
    TypeEntry.mem_goNames.mpr (.inl List.mem_cons_self)
  rw [List.nodup_flatMap]
  constructor
  · rintro ⟨each, pairs⟩
    have symm : Std.Symm (Function.onFun List.Disjoint TypeEntry.goNames) :=
      ⟨fun _ _ disjoint => disjoint.symm⟩
    have disjoint {entry other : TypeEntry} (hm : entry ∈ table.entries)
        (ho : other ∈ table.entries) (differ : entry ≠ other) :
        List.Disjoint entry.goNames other.goNames :=
      pairs.forall (mem_sortedEntries.mpr hm) (mem_sortedEntries.mpr ho) differ
    constructor
    · rintro entry hm _ hn other ho rfl
      by_cases same : entry = other
      · subst same
        have alone := each entry (mem_sortedEntries.mpr hm)
        exact (List.nodup_cons.mp alone).1 (List.mem_append_left _ hn)
      · exact disjoint hm ho same (constant_mem hn) (ident_mem other)
    · intro entry hm other ho differ name hn hn'
      exact disjoint hm ho differ (constant_mem hn) (constant_mem hn')
  · rintro ⟨types, constants⟩
    constructor
    · intro entry hm
      have hm := mem_sortedEntries.mp hm
      exact TypeEntry.nodup_goNames (rendered entry hm)
        (fun hn => types entry hm entry.ident hn entry hm rfl) (wf.nodup_constants hm)
    · refine nodup_sortedEntries.pairwise_of_forall_ne
        fun entry hm other ho differ => ?_
      have hm := mem_sortedEntries.mp hm
      have ho := mem_sortedEntries.mp ho
      exact TypeEntry.disjoint_goNames (rendered entry hm) (rendered other ho)
        (fun same => differ (eq_of_ident hm ho same))
        (fun hn => types entry hm _ hn other ho rfl) (fun hn => types other ho _ hn entry hm rfl)
        (constants entry hm other ho differ)

theorem nodup_goNames_iff (rendered : ∀ entry ∈ table.entries, IsRendered entry.ident.toList)
    (wf : table.WellFormed) : table.goNames.Nodup ↔ table.NamesApart := by
  let numbered := (List.range table.patternPlaces.length).map patternVariable
  have fixed : (supportNames ++ numbered).Nodup := by
    refine List.nodup_append.mpr ⟨by decide, List.nodup_range.map patternVariable_injective, ?_⟩
    rintro helper hh _ hn rfl
    obtain ⟨index, -, rfl⟩ := List.mem_map.mp hn
    exact (helper_apart hh).1 index rfl
  rw [goNames, List.nodup_append, nodup_types_iff rendered wf]
  constructor
  · rintro ⟨-, ⟨types, constants⟩, apart⟩
    refine ⟨fun entry hm name hn helper => ?_, types, constants⟩
    exact apart name (List.mem_append_left _ helper) name
      (List.mem_flatMap.mpr ⟨entry, mem_sortedEntries.mpr hm, TypeEntry.mem_goNames.mpr (.inl hn)⟩)
      rfl
  · intro h
    refine ⟨fixed, ⟨h.types, h.constants⟩, ?_⟩
    rintro name hn _ ho rfl
    obtain ⟨entry, hm, hn'⟩ := List.mem_flatMap.mp ho
    have hm := mem_sortedEntries.mp hm
    rcases List.mem_append.mp hn with helper | counted
    · rcases TypeEntry.mem_goNames.mp hn' with own | ⟨-, listed⟩
      · exact h.helpers entry hm name own helper
      · exact (helper_apart helper).2 entry.ident listed
    · obtain ⟨index, -, rfl⟩ := List.mem_map.mp counted
      rcases TypeEntry.mem_goNames.mp hn' with own | ⟨-, listed⟩
      · exact not_isUpper_patternVariable index (TypeEntry.isUpper_of_mem (rendered entry hm) own)
      · have first := congrArg (fun name => name.toList.head?) listed
        simp [patternVariable] at first

end TypeTable

namespace SchemaDocument

/-- The identifiers that a generated Go file declares are those of the helpers, of the patterns, and
of the types with their constants and lists of values. Types differ from each other, and so do the
constants of one enumeration; no two identifiers at all are the same exactly if no constant is
called like a type or like one of another enumeration, and neither a type nor a constant like a
helper. Nothing sees to that. -/
theorem package_names_distinct_iff (document : SchemaDocument) (options : GenerateOptions)
    (text : String) (h : document.generate .go options = .ok text) :
    ∃ table, document.toTypeTable options.root = .ok table ∧
      (table.NamesAreWords → '\n' ∉ options.modulePath.toList →
        packageNames text = table.goNames) ∧
      (table.goNames.Nodup ↔ table.NamesApart) := by
  obtain ⟨table, ht, hr⟩ := generate_eq_ok_iff.mp h
  obtain ⟨validated, items, file, renders⟩ := TypeTable.renders_of_render hr
  have rendered : ∀ entry ∈ table.entries, IsRendered entry.ident.toList := by
    intro entry hm
    obtain ⟨names, ident, -⟩ := ident_of_mem_entries ht hm
    exact ident ▸ isRendered_renderPath names
  exact ⟨table, ht, renders.packageNames_eq,
    TypeTable.nodup_goNames_iff rendered renders.wellFormed⟩

theorem boxTable_namesAreWords : boxTable.NamesAreWords where
  ident := by decide +kernel
  name := by
    intro entry hm part hw name hn
    fin_cases hm
    · cases hw with
      | here => fin_cases hn <;> decide
      | property hp hw =>
        fin_cases hp
        · cases hw
          cases hn
        · cases hw with
          | here => cases hn
          | items hw =>
            cases hw
            cases hn
    · cases hw
      fin_cases hn <;> decide
  nonempty := by decide +kernel
  no_blank := by decide +kernel
  value := by
    intro entry hm values hn
    fin_cases hm
    · cases hn
    · cases hn
      decide

theorem boxTable_namesApart : boxTable.NamesApart where
  helpers := by decide +kernel
  types := by decide +kernel
  constants := by
    intro entry hm other ho differ name hn
    fin_cases hm
    · cases hn
    · fin_cases ho
      · exact List.not_mem_nil
      · exact absurd rfl differ

theorem package_names_distinct_iff_box :
    ∃ text, boxDocument.generate .go { root := some "box" } = .ok text ∧
      (packageNames text).Nodup := by
  have flat : boxDocument.toTypeTable (some "box") = .ok boxTable := by cbv
  obtain ⟨text, ht⟩ :=
    (@TypeTable.exists_render_iff boxTable .go "schema").mpr boxTable_wellFormed
  have generated : boxDocument.generate .go { root := some "box" } = .ok text :=
    generate_eq_ok_iff.mpr ⟨boxTable, flat, ht⟩
  obtain ⟨table, same, read, distinct⟩ :=
    package_names_distinct_iff boxDocument { root := some "box" } text generated
  cases Except.ok.inj (flat.symm.trans same)
  refine ⟨text, generated, ?_⟩
  rw [read boxTable_namesAreWords (by decide)]
  exact distinct.mpr boxTable_namesApart

/-- Colors and levels, of which constants are called like a type and like each other, and a type
that is called like a helper. -/
def paletteDocument : SchemaDocument where
  defs := some [
    ("color", { enum := some [.string "red"] }),
    ("colorRed", { typeNames := some (.one "string") }),
    ("level", { enum := some [.string "lowMark"] }),
    ("levelLow", { enum := some [.string "mark"] }),
    ("validationError", { typeNames := some (.one "string") })]

def paletteTable : TypeTable where
  entries := [
    ⟨"color", ["color"], .enumeration ["red"], "Color"⟩,
    ⟨"colorRed", ["colorRed"], .string {}, "ColorRed"⟩,
    ⟨"level", ["level"], .enumeration ["lowMark"], "Level"⟩,
    ⟨"levelLow", ["levelLow"], .enumeration ["mark"], "LevelLow"⟩,
    ⟨"validationError", ["validationError"], .string {}, "ValidationError"⟩]
  nodup_name := by decide
  nodup_ident := by decide

theorem paletteTable_wellFormed : paletteTable.WellFormed := by
  constructor
  · intro entry hm values hn
    fin_cases hm <;> cases hn <;> decide
  · intro entry hm kind
    fin_cases hm
    · cases kind
    · rintro part ⟨⟩
      trivial
    · cases kind
    · cases kind
    · rintro part ⟨⟩
      trivial

theorem paletteTable_namesAreWords : paletteTable.NamesAreWords where
  ident := by decide +kernel
  name := by
    intro entry hm part hw name hn
    fin_cases hm <;> cases hw <;> fin_cases hn <;> decide
  nonempty := by decide +kernel
  no_blank := by decide +kernel
  value := by
    intro entry hm values hn
    fin_cases hm <;> cases hn <;> decide

theorem package_names_repeated_palette :
    ∃ text, paletteDocument.generate .go {} = .ok text ∧
      packageNames text = supportNames ++ ["Color", "ColorRed", "enumValuesColor", "ColorRed",
        "Level", "LevelLowMark", "enumValuesLevel", "LevelLow", "LevelLowMark",
        "enumValuesLevelLow", "ValidationError"] ∧
      ¬(packageNames text).Nodup := by
  have flat : paletteDocument.toTypeTable none = .ok paletteTable := by cbv
  obtain ⟨text, ht⟩ :=
    (@TypeTable.exists_render_iff paletteTable .go "schema").mpr paletteTable_wellFormed
  obtain ⟨validated, items, file, renders⟩ := TypeTable.renders_of_render ht
  have read : packageNames text = supportNames ++ ["Color", "ColorRed", "enumValuesColor",
      "ColorRed", "Level", "LevelLowMark", "enumValuesLevel", "LevelLow", "LevelLowMark",
      "enumValuesLevelLow", "ValidationError"] := by
    rw [renders.packageNames_eq paletteTable_namesAreWords (by decide)]
    cbv
  refine ⟨text, generate_eq_ok_iff.mpr ⟨paletteTable, flat, ht⟩, read, ?_⟩
  rw [read]
  decide

end SchemaDocument

end CheckedTypes
