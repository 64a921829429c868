import CheckedTypes.Proofs.CheckedRun
import CheckedTypes.Proofs.FittingValue
import Mathlib.Order.Filter.AtTopBot.Basic
import Mathlib.Order.Filter.Finite
import Mathlib.Data.Set.Finite.Basic

namespace CheckedTypes

/-- The patterns of a type have the numbers from `next` on among all patterns of a file. -/
def PlacedAt (all : List String) (next : Nat) (patterns : List String) : Prop :=
  ∀ index < patterns.length, all[next + index]? = patterns[index]?

theorem PlacedAt.left {all first second : List String} {next : Nat}
    (h : PlacedAt all next (first ++ second)) : PlacedAt all next first := by
  intro index hi
  rw [h index (by rw [List.length_append]; omega), List.getElem?_append_left hi]

theorem PlacedAt.right {all first second : List String} {next : Nat}
    (h : PlacedAt all next (first ++ second)) : PlacedAt all (next + first.length) second := by
  intro index hi
  rw [Nat.add_assoc, h (first.length + index) (by rw [List.length_append]; omega),
    List.getElem?_append_right (by omega), Nat.add_sub_cancel_left]

/-- The patterns of an item have the numbers with which it is emitted. -/
theorem EmissionContext.EmitsItems.placed {context : EmissionContext} {next : Nat}
    {entries : List TypeEntry} {items : List FileItem} (h : context.EmitsItems next entries items)
    {before : List String} (hb : before.length = next) {entry : TypeEntry} (hm : entry ∈ entries) :
    ∃ start, ∃ item ∈ items, context.EmitsItem start entry item ∧
      PlacedAt (before ++ items.flatMap FileItem.patterns) start item.patterns := by
  induction h generalizing before with
  | nil => cases hm
  | @cons next first rest item items hfirst _ ih =>
    rcases List.mem_cons.mp hm with rfl | hm
    · refine ⟨next, item, List.mem_cons_self, hfirst, fun index hi => ?_⟩
      rw [List.getElem?_append_right (by omega), ← hb, Nat.add_sub_cancel_left,
        List.flatMap_cons, List.getElem?_append_left hi]
    · have hlen : (before ++ item.patterns).length = next + item.patterns.length := by
        rw [List.length_append, hb]
      obtain ⟨start, other, ho, he, hp⟩ := ih hlen hm
      refine ⟨start, other, List.mem_cons_of_mem _ ho, he, ?_⟩
      rwa [List.append_assoc, ← List.flatMap_cons] at hp

namespace TypeTable

open EmissionContext

variable {table : TypeTable} {modulePath text : String} {validated : List String}
  {items : List FileItem} {file : FileParts}

/-- The item of a type, where its patterns are, and how its validator is found. -/
theorem Renders.exists_item {target : Target}
    (h : table.Renders target modulePath text validated items file) {entry : TypeEntry}
    (hm : entry ∈ table.entries) :
    ∃ start item, EmitsItem { target, table, validated, current := "" } start entry item ∧
      PlacedAt (items.flatMap FileItem.patterns) start item.patterns ∧
      items.find? (·.ident == entry.ident) = some item := by
  obtain ⟨start, item, hi, he, hp⟩ :=
    h.emits.placed List.length_nil (mem_sortedEntries.mpr hm)
  refine ⟨start, item, he, hp, ?_⟩
  rw [← he.ident]
  exact find?_of_nodup h.nodup_ident hi

/-- A type without a validator needs no checks. -/
theorem Renders.emits_ignorable {target : Target}
    (h : table.Renders target modulePath text validated items file) {entry : TypeEntry}
    (hm : entry ∈ table.entries) (unchecked : entry.ident ∉ validated) :
    ∃ start checks patterns, Emits { target, table, validated, current := entry.name }
      FileParts.root false start entry.node true checks patterns := by
  obtain ⟨start, item, hitem, -, -⟩ := h.exists_item hm
  have none := mt (h.mem_validatorIdents hm hitem).mp unchecked
  cases hitem with
  | enumeration => exact absurd rfl none
  | @type ignorable checks patterns _ hemit =>
    cases ignorable with
    | false => exact absurd rfl none
    | true => exact ⟨start, checks, patterns, hemit⟩

/-- A value of the right kinds is a value of the type if the type needs no checks. -/
theorem Renders.valid_of_ignorable
    (h : table.Renders .typescript modulePath text validated items file) {node : TypeNode}
    {value : Json} (hf : Fits table node value) {current : String} {cursor : Cursor}
    {optional : Bool} {next : Nat} {checks : List Statement} {patterns : List String}
    (he : Emits { target := .typescript, table, validated, current } cursor optional next node true
      checks patterns) : Valid table node value := by
  induction hf generalizing current cursor optional next checks patterns with
  | null => exact .null
  | boolean => exact .boolean
  | integer hx hi => exact .integer hx hi (.of_isEmpty he.integer.1.symm)
  | number hx => exact .number hx (.of_isEmpty he.number.1.symm)
  | string => exact .string (.of_isEmpty he.string.1.symm)
  | array _ ih =>
    obtain ⟨-, a, elements, hi, ha, -⟩ := he.array
    obtain ⟨rfl, hc⟩ := Bool.and_eq_true_iff.mp ha.symm
    exact .array (.of_isEmpty hc) fun value hm => ih value hm hi
  | @object properties required members _ ih =>
    obtain ⟨-, a, checks, hm, ha, -⟩ := he.object
    obtain ⟨rfl, hc⟩ := Bool.and_eq_true_iff.mp ha.symm
    have perm := sortByName_perm properties
    refine .object (fun name hreq hdec => ?_) fun name node value hn hv hne => ?_
    · have hmem : name ∈ TypeNode.requiredNames properties required := by
        simp [TypeNode.requiredNames, hreq, List.mem_map.mp hdec]
      rw [← (TypeNode.requiredNames_perm perm).mem_iff, List.isEmpty_iff.mp hc] at hmem
      cases hmem
    · obtain ⟨before, after, hp, -⟩ := List.lookup_eq_some_iff.mp hn
      obtain ⟨_, _, _, _, hi, hemit⟩ := hm.emits_of_mem
        (perm.symm.subset (show (name, node) ∈ properties by simp [hp]))
      rw [hi rfl] at hemit
      exact ih name node value hn hv (fun hc => hne ⟨hc.1, hc.2.1⟩) hemit
  | enumeration => exact absurd he not_emits_enumeration
  | @reference pointer entry value hr _ ih =>
    obtain ⟨other, ho, -, hc⟩ := he.reference
    cases Except.ok.inj (hr.symm.trans ho)
    split at hc
    next => exact absurd hc.1 (by simp)
    next hn =>
      obtain ⟨_, _, _, hemit⟩ := h.emits_ignorable (resolve_mem hr) fun hi => hn ⟨rfl, hi⟩
      exact .reference hr (ih hemit)

/-- The checks of a type end on a value as the check of the value does, wherever it stands, if calls
may be nested deep enough. -/
def Simulates (table : TypeTable) (validated : List String) (items : List FileItem)
    (node : TypeNode) (value : Json) : Prop :=
  ∀ ⦃current cursor optional next ignorable checks patterns⦄,
    Emits { target := .typescript, table, validated, current } cursor optional next node ignorable
      checks patterns →
    PlacedAt (items.flatMap FileItem.patterns) next patterns →
    ∀ ⦃scope path⦄, scope.Sees cursor path (some value) →
      ∀ᶠ depth in Filter.atTop, Agrees (checkValue table node path value)
        (Statement.runAll (runValidator items depth) (items.flatMap FileItem.patterns) scope checks)

theorem simulates_integer {constraints : NumericConstraints} {value : Json} {x : Binary64}
    (hx : value.asBinary64? = some x) (hi : x.IsInteger) :
    Simulates table validated items (.integer constraints) value := by
  intro current cursor optional next ignorable checks patterns he _ scope path hs
  obtain ⟨-, -, rfl⟩ := he.integer
  have integral : value.asBinary64?.filter Binary64.isIntegral = some x := by
    rw [hx, Option.filter_some, if_pos (Binary64.isIntegral_iff.mpr hi)]
  have filled : value ≠ .null := by
    rintro rfl
    cases hx
  have result : checkValue table (.integer constraints) path value =
      demand (constraints.admits x) .integer path := by
    rw [checkValue_integer, checkInteger, integral]
  rw [result]
  refine .of_forall fun depth => agrees_failUnless ?_ hs.path_eq fun empty => ?_
  · rw [Predicate.holds?, hs.value_eq, Option.map_some, tolerates_of_ne_null filled, integral,
      Option.any_some]
  · exact NumericConstraints.admits_iff.mpr (.of_isEmpty (by simpa using empty))

theorem simulates_number {constraints : NumericConstraints} {value : Json} {x : Binary64}
    (hx : value.asBinary64? = some x) :
    Simulates table validated items (.number constraints) value := by
  intro current cursor optional next ignorable checks patterns he _ scope path hs
  obtain ⟨-, -, rfl⟩ := he.number
  have filled : value ≠ .null := by
    rintro rfl
    cases hx
  have result : checkValue table (.number constraints) path value =
      demand (constraints.admits x) .number path := by
    rw [checkValue_number, checkNumber, hx]
  rw [result]
  refine .of_forall fun depth => agrees_failUnless ?_ hs.path_eq fun empty => ?_
  · rw [Predicate.holds?, hs.value_eq, Option.map_some, tolerates_of_ne_null filled, hx,
      Option.any_some]
  · exact NumericConstraints.admits_iff.mpr (.of_isEmpty (by simpa using empty))

/-- The length of a string is checked before its pattern on both sides. -/
theorem simulates_string
    (meaningful : ∀ pattern ∈ items.flatMap FileItem.patterns, (Regex.ofText? pattern).isSome)
    {constraints : StringConstraints} {content : String} :
    Simulates table validated items (.string constraints) (.string content) := by
  intro current cursor optional next ignorable checks patterns he hp scope path hs
  obtain ⟨-, rfl, rfl⟩ := he.string
  rw [checkValue_string, checkString_text]
  refine .of_forall fun depth => ?_
  rw [Statement.runAll_append]
  refine (agrees_failUnless ?_ hs.path_eq fun unbounded => ?_).andThen fun _ => ?_
  · rw [Predicate.holds?, hs.value_eq]
    rfl
  · simp only [StringConstraints.hasLength, Bool.or_eq_false_iff, Option.isSome_eq_false_iff,
      Option.isNone_iff_eq_none] at unbounded
    simp [StringConstraints.admitsLength, unbounded]
  · cases hc : constraints.pattern with
    | none => exact .passes
    | some pattern =>
      have number : (items.flatMap FileItem.patterns)[next]? = some pattern := by
        simpa [hc] using hp 0 (by simp [hc])
      obtain ⟨regex, hr⟩ :=
        Option.isSome_iff_exists.mp (meaningful pattern (List.mem_of_getElem? number))
      rw [checkPattern]
      simp only [hr]
      refine agrees_failUnless ?_ hs.path_eq (by simp)
      rw [Predicate.holds?, hs.value_eq, number, Option.bind_some, hr]
      rfl

theorem simulates_array {element : TypeNode} {additionalItems : Bool}
    {constraints : ArrayConstraints} {elements : List Json}
    (ih : ∀ value ∈ elements, Simulates table validated items element value) :
    Simulates table validated items (.array (some element) additionalItems constraints)
      (.list elements) := by
  intro current cursor optional next ignorable checks patterns he hp scope path hs
  obtain ⟨-, a, inner, hi, -, rfl⟩ := he.array
  have each : ∀ᶠ depth in Filter.atTop, ∀ index ∈ {index | index < elements.length}, ∀ value,
      elements[index]? = some value →
      Agrees (checkValue table element (path ++ [.index index]) value)
        (Statement.runAll (runValidator items depth) (items.flatMap FileItem.patterns)
          (scope.enter cursor.level index) inner) := by
    refine (Filter.eventually_all_finite (Set.finite_lt_nat _)).mpr fun index _ => ?_
    cases hv : elements[index]? with
    | none => exact .of_forall fun _ _ h => by cases h
    | some value =>
      have sees := hs.element index
      rw [hv] at sees
      filter_upwards [ih value (List.mem_of_getElem? hv) hi hp sees] with depth agrees other ho
      cases Option.some.inj ho
      exact agrees
  filter_upwards [each] with depth each
  rw [checkValue_array, Statement.runAll_arrayChecks hs, Statement.runAll_append]
  refine (agrees_failUnless ?_ hs.path_eq fun empty => ?_).andThen fun _ => ?_
  · rw [Predicate.holds?, hs.value_eq]
    rfl
  · exact ArrayConstraints.admits_iff.mpr (.of_isEmpty (by simpa using empty))
  · rw [Statement.runAll_loop hs]
    refine agrees_eachPosition fun index value hv => ?_
    rw [Nat.zero_add]
    exact each index (List.getElem?_eq_some_iff.mp hv).1 value hv

/-- The checks of the members run in the order in which the members are checked. -/
theorem agrees_members {current : String} {cursor : Cursor} {asked : List String}
    {properties rest : List (String × TypeNode)} {required : Option (List String)}
    {members : List (String × Json)} {scope : Scope} {path : List ValueStep} {next : Nat}
    {ignorable : Bool} {checks : List Statement} {patterns : List String}
    (hm : EmitsMembers { target := .typescript, table, validated, current } cursor asked next rest
      ignorable checks patterns)
    (hp : PlacedAt (items.flatMap FileItem.patterns) next patterns)
    (each : ∀ name node, (name, node) ∈ rest → ∀ next a others used,
      Emits { target := .typescript, table, validated, current } (cursor.field name)
        (!asked.contains name) next node a others used →
      PlacedAt (items.flatMap FileItem.patterns) next used →
      ∀ᶠ depth in Filter.atTop,
        Agrees
          (((members.lookup name).map (table.checkMember properties required path name)).getD
            (.ok ()))
          (Statement.runAll (runValidator items depth) (items.flatMap FileItem.patterns) scope
            others)) :
    ∀ᶠ depth in Filter.atTop,
      Agrees (firstFailure (checkMembers table properties required path members) rest)
        (Statement.runAll (runValidator items depth) (items.flatMap FileItem.patterns) scope
          checks) := by
  induction hm with
  | nil => exact .of_forall fun _ => .passes
  | cons first _ ih =>
    have others := ih hp.right fun name node hn => each name node (List.mem_cons_of_mem _ hn)
    filter_upwards [each _ _ List.mem_cons_self _ _ _ _ first hp.left, others] with depth here more
    rw [firstFailure_cons, lookup_checkMembers, Statement.runAll_append]
    exact here.andThen fun _ => more

/-- A member of the right kinds passes if it is one of its type, also where a null is not looked
at. -/
theorem checkMember_of_fits (acyclic : table.ReferencesEnd)
    {properties : List (String × TypeNode)} {required : Option (List String)} {name : String}
    {node : TypeNode} {value : Json} (declared : properties.lookup name = some node)
    (hf : Fits table node value) (path : List ValueStep) :
    table.checkMember properties required path name value =
      checkValue table node (path ++ [.key name]) value := by
  by_cases hnull : value = .null ∧ name ∉ required.getD []
  · obtain ⟨rfl, free⟩ := hnull
    rw [checkMember_null free, check_of_valid acyclic hf.valid_null]
  · exact checkMember_declared declared hnull

theorem simulates_object (acyclic : table.ReferencesEnd)
    {properties : List (String × TypeNode)} {required : Option (List String)}
    {members : List (String × Json)}
    (fits : ∀ name node value, properties.lookup name = some node →
      members.lookup name = some value →
      ¬(value = .null ∧ name ∉ required.getD [] ∧ node.isReference = false) →
      Fits table node value)
    (ih : ∀ name node value, properties.lookup name = some node →
      members.lookup name = some value →
      ¬(value = .null ∧ name ∉ required.getD [] ∧ node.isReference = false) →
      Simulates table validated items node value) :
    Simulates table validated items (.object properties required) (.object members) := by
  intro current cursor optional next ignorable checks patterns he hp scope path hs
  obtain ⟨apart, a, inner, hm, -, rfl⟩ := he.object
  have perm := sortByName_perm properties
  have nodup : (properties.map Prod.fst).Nodup :=
    (perm.map _).nodup_iff.mp (nodup_of_collision? apart)
  generalize hasked : TypeNode.requiredNames (sortByName properties) required = asked at hm
  have asked_mem : ∀ name, name ∈ asked → name ∈ required.getD [] := by
    intro name hn
    rw [← hasked, TypeNode.requiredNames] at hn
    simpa using (List.mem_filter.mp hn).2
  simp only [checkValue_object, missingMember?, hasked, Statement.runAll_objectChecks hs,
    Statement.runAll_append, Statement.runAll_probes hs]
  cases missing : asked.find? fun name => (members.lookup name).isNone with
  | some name => exact .of_forall fun _ => .fails
  | none =>
    refine agrees_members hm hp fun name node hn next a others used hemit hplaced => ?_
    have declared : properties.lookup name = some node :=
      lookup_of_nodup nodup (perm.subset hn)
    have sees := hs.field name
    cases hv : members.lookup name with
    | none =>
      have free : name ∉ asked := fun hi => by
        simpa [hv] using List.find?_eq_none.mp missing name hi
      rw [hv] at sees
      rw [show (!asked.contains name) = true by simpa using free] at hemit
      exact .of_forall fun _ => .of_ok rfl (hemit.skips sees (.inl rfl))
    | some value =>
      rw [hv] at sees
      rw [Option.map_some, Option.getD_some]
      by_cases skipped : value = .null ∧ name ∉ required.getD [] ∧ node.isReference = false
      · obtain ⟨rfl, free, plain⟩ := skipped
        rw [show (!asked.contains name) = true by simpa using mt (asked_mem name) free] at hemit
        exact .of_forall fun _ => .of_ok (checkMember_null free)
          (hemit.skips sees (.inr ⟨rfl, plain⟩))
      · rw [checkMember_of_fits acyclic declared (fits name node value declared hv skipped)]
        exact ih name node value declared hv skipped hemit hplaced sees

theorem simulates_enumeration {values : List String} {content : String} :
    Simulates table validated items (.enumeration values) (.string content) :=
  fun _ _ _ _ _ _ _ he => absurd he not_emits_enumeration

/-- The validator of a type ends on a value as the check of the value does. -/
theorem Renders.agrees_runValidator
    (h : table.Renders .typescript modulePath text validated items file)
    (acyclic : table.ReferencesEnd) {entry : TypeEntry} (hm : entry ∈ table.entries)
    {value : Json} (hf : Fits table entry.node value)
    (hs : Simulates table validated items entry.node value) :
    ∀ᶠ depth in Filter.atTop, Agrees (checkValue table entry.node [] value)
      (runValidator items depth entry.ident value) := by
  obtain ⟨start, item, hitem, hp, found⟩ := h.exists_item hm
  have step : ∀ depth, runValidator items (depth + 1) entry.ident value =
      item.run (runValidator items depth) (items.flatMap FileItem.patterns) value := by
    intro depth
    rw [runValidator, found]
  suffices run : ∀ᶠ depth in Filter.atTop, Agrees (checkValue table entry.node [] value)
      (item.run (runValidator items depth) (items.flatMap FileItem.patterns) value) by
    obtain ⟨enough, run⟩ := Filter.eventually_atTop.mp run
    refine Filter.eventually_atTop.mpr ⟨enough + 1, fun depth le => ?_⟩
    obtain ⟨depth, rfl⟩ : ∃ n, depth = n + 1 := ⟨depth - 1, by omega⟩
    rw [step]
    exact run depth (by omega)
  cases hitem with
  | @enumeration values hn =>
    rw [hn] at hf ⊢
    cases hf with
    | enumeration =>
      rw [checkValue_enumeration]
      exact .of_forall fun _ => agrees_demand _ _ _
  | @type ignorable checks patterns _ he =>
    cases ignorable with
    | true =>
      have valid := h.valid_of_ignorable hf he
      exact .of_forall fun _ => .of_ok (check_of_valid acyclic valid []) rfl
    | false => exact hs he hp (Scope.sees_root value)

theorem Renders.simulates (h : table.Renders .typescript modulePath text validated items file)
    (meaningful : ∀ pattern ∈ items.flatMap FileItem.patterns, (Regex.ofText? pattern).isSome)
    (acyclic : table.ReferencesEnd) {node : TypeNode} {value : Json}
    (hf : Fits table node value) : Simulates table validated items node value := by
  induction hf with
  | null =>
    intro _ _ _ _ _ _ _ he _ _ _ _
    rw [he.null.2.1]
    exact .of_forall fun _ => .of_ok (by simp [checkValue_null]) rfl
  | boolean =>
    intro _ _ _ _ _ _ _ he _ _ _ _
    rw [he.boolean.2.1]
    exact .of_forall fun _ => .of_ok (by simp [checkValue_boolean]) rfl
  | integer hx hi => exact simulates_integer hx hi
  | number hx => exact simulates_number hx
  | string => exact simulates_string meaningful
  | array _ ih => exact simulates_array ih
  | object fits ih => exact simulates_object acyclic fits ih
  | enumeration => exact simulates_enumeration
  | @reference pointer entry value hr hf ih =>
    intro current cursor optional next ignorable checks patterns he hp scope path hs
    obtain ⟨target, ends⟩ := EndsAt.of_fits hf
    obtain ⟨other, ho, -, hc⟩ := he.reference
    cases Except.ok.inj (hr.symm.trans ho)
    rw [checkValue_reference acyclic hr ends]
    have entered := h.agrees_runValidator acyclic (resolve_mem hr) hf ih
    split at hc
    next =>
      rw [hc.2]
      filter_upwards [entered] with depth agrees
      rw [Statement.runAll_singleton, Statement.run, hs.value_eq]
      exact agrees
    next =>
      -- the type referred to has no validator, so what it describes is always as it should be
      rw [hc.2]
      rw [hc.1] at he
      refine .of_forall fun _ => .of_ok ?_ rfl
      have valid := h.valid_of_ignorable (.reference hr hf) he
      cases valid with
      | reference hr' valid =>
        cases Except.ok.inj (hr.symm.trans hr')
        exact check_of_valid acyclic valid []

end TypeTable

end CheckedTypes
