import CheckedTypes.Proofs.CheckFault
import CheckedTypes.Proofs.ValidatorRun

namespace CheckedTypes

/-- A check that is still to be made. -/
structure PendingCheck where
  node : TypeNode
  path : List ValueStep
  value : Json

namespace PendingCheck

def ofElements (items : TypeNode) (path : List ValueStep) (position : Nat) :
    List Json → List PendingCheck
  | [] => []
  | value :: rest =>
    ⟨items, path ++ [.index position], value⟩ :: ofElements items path (position + 1) rest

/-- The check of a member: one that is missing, and a null that need not be there, are not looked
at. -/
def ofMember? (properties : List (String × TypeNode)) (required : Option (List String))
    (path : List ValueStep) (members : List (String × Json)) (name : String) :
    Option PendingCheck :=
  match members.lookup name, properties.lookup name with
  | some .null, some node =>
    if requires required name then some ⟨node, path ++ [.key name], .null⟩ else none
  | some value, some node => some ⟨node, path ++ [.key name], value⟩
  | _, _ => none

/-- Makes one check as far as the type itself goes. What is left are the checks of the parts of the
value or, behind a reference, that of the value itself. -/
def next (table : TypeTable) : PendingCheck → Except CheckError (List PendingCheck)
  | ⟨.null, path, value⟩ =>
    (demand (value matches .null) (.expected "null") path).map fun _ => []
  | ⟨.boolean, path, value⟩ =>
    (demand (value matches .boolean _) (.expected "boolean") path).map fun _ => []
  | ⟨.integer constraints, path, value⟩ => (checkInteger constraints path value).map fun _ => []
  | ⟨.number constraints, path, value⟩ => (checkNumber constraints path value).map fun _ => []
  | ⟨.string constraints, path, value⟩ => (checkString constraints path value).map fun _ => []
  | ⟨.array none _ _, path, _⟩ =>
    .error (.schema (.schemaShape (valuePathText path) "array must have item type"))
  | ⟨.array (some items) _ constraints, path, value⟩ =>
    match value with
    | .list elements =>
      (demand (constraints.admits elements) .array path).map fun _ =>
        ofElements items path 0 elements
    | .null => .error (.violation .arrayPresent path)
    | _ => .error (.violation (.expected "array") path)
  | ⟨.object properties required, path, value⟩ =>
    match value with
    | .object members =>
      match missingMember? properties required members with
      | some name => .error (.violation .memberRequired (path ++ [.key name]))
      | none =>
        .ok (((sortByName properties).map Prod.fst).filterMap
          (ofMember? properties required path members))
    | _ => .error (.violation (.expected "object") path)
  | ⟨.enumeration values, path, value⟩ =>
    (demand (value.asString?.any values.contains) .enumeration path).map fun _ => []
  | ⟨.reference pointer, _, value⟩ =>
    match table.resolve pointer with
    | .error fault => .error (.schema fault)
    | .ok entry => .ok [⟨entry.node, [], value⟩]

/-- One check leads to another. -/
def Asks (table : TypeTable) (check other : PendingCheck) : Prop :=
  ∃ rest, check.next table = .ok rest ∧ other ∈ rest

end PendingCheck

namespace TypeTable

/-- Makes the checks that are pending and those that they lead to, one after the other, up to the
first that fails; with too few steps there is no result. -/
def runChecks (table : TypeTable) : (steps : Nat) → List PendingCheck → Option CheckResult
  | _, [] => some (.ok ())
  | 0, _ :: _ => none
  | steps + 1, check :: pending =>
    match check.next table with
    | .error fault => some (.error fault)
    | .ok rest => table.runChecks steps (rest ++ pending)

variable {table : TypeTable}

/-- The references of a type in the table lead on or are at fault, but are never too many. -/
theorem ReferencesEnd.dereference_ne_endless (acyclic : table.ReferencesEnd) {entry : TypeEntry}
    (hm : entry ∈ table.entries) {pointer : String}
    (placed : (TypeNode.reference pointer).Within entry.node) {other : TypeEntry}
    (hr : table.resolve pointer = .ok other) {hops : Nat} (size : table.size = hops + 1) :
    table.dereference hops other.node ≠ .error .endless := by
  intro h
  obtain ⟨chain, rfl, linked, inside, references, reference, first⟩ := exists_chain_of_endless h
  have linked : (other :: chain).IsChain table.ForwardsTo := List.isChain_cons.mpr ⟨first, linked⟩
  have references : ∀ entry ∈ other :: chain, entry.node.isReference = true :=
    List.forall_mem_cons.mpr ⟨reference, references⟩
  have inside := List.cons_subset.mpr ⟨hm, List.cons_subset.mpr ⟨resolve_mem hr, inside⟩⟩
  have nodup : (entry :: other :: chain).Nodup := by
    cases hn : entry.node.isReference with
    | true =>
      obtain ⟨_, hp⟩ := TypeNode.exists_pointer hn
      rw [hp] at placed
      cases placed
      refine acyclic.nodup (List.isChain_cons.mpr ⟨?_, linked⟩)
      rintro _ ⟨⟩
      exact ⟨pointer, hp, hr⟩
    | false =>
      refine List.nodup_cons.mpr ⟨fun again => ?_, acyclic.nodup linked⟩
      simp [references entry again] at hn
  have := (List.subperm_of_subset nodup inside).length_le
  rw [TypeTable.size] at size
  simp only [List.length_cons] at this
  omega

/-- Following one reference changes nothing but the path. -/
theorem ReferencesEnd.checkValue_resolve (acyclic : table.ReferencesEnd) {entry : TypeEntry}
    (hm : entry ∈ table.entries) {pointer : String}
    (placed : (TypeNode.reference pointer).Within entry.node) (path : List ValueStep)
    (value : Json) :
    checkValue table (.reference pointer) path value =
      match table.resolve pointer with
      | .error fault => .error (.schema fault)
      | .ok other => checkValue table other.node [] value := by
  obtain ⟨hops, size⟩ := exists_size_eq hm
  cases hr : table.resolve pointer with
  | error fault => exact checkValue_of_error (by rw [size, dereference, hr]) path value
  | ok other =>
    have enough := acyclic.dereference_ne_endless hm placed hr size
    have same := dereference_stable enough (Nat.le_succ hops)
    cases hd : table.dereference hops other.node with
    | error fault =>
      have here : table.dereference table.size (.reference pointer) = .error fault := by
        rw [size, dereference_reference hr, hd]
        rfl
      have there : table.dereference table.size other.node = .error fault := by
        rw [size, ← hd]
        exact same
      exact (checkValue_of_error here path value).trans (checkValue_of_error there [] value).symm
    | ok reached =>
      have here : table.dereference table.size (.reference pointer) = .ok (reached.1, true) := by
        rw [size, dereference_reference hr, hd]
        rfl
      exact checkValue_reference_of_ok hr here path value

end TypeTable

namespace PendingCheck

variable {table : TypeTable}

/-- What comes out of checks that are made one after the other, up to the first that fails. -/
def outcome (table : TypeTable) : List PendingCheck → CheckResult
  | [] => .ok ()
  | check :: pending =>
    match checkValue table check.node check.path check.value with
    | .error fault => .error fault
    | .ok _ => outcome table pending

theorem outcome_append (checks pending : List PendingCheck) :
    outcome table (checks ++ pending) =
      match outcome table checks with
      | .error fault => .error fault
      | .ok _ => outcome table pending := by
  induction checks with
  | nil => rfl
  | cons check rest ih =>
    rw [List.cons_append, outcome, outcome]
    split
    next => rfl
    next => exact ih

theorem outcome_ofElements (items : TypeNode) (path : List ValueStep) (position : Nat)
    (elements : List Json) :
    outcome table (ofElements items path position elements) =
      checkElements table items path position elements := by
  induction elements generalizing position with
  | nil => rfl
  | cons value rest ih =>
    rw [ofElements, outcome, checkElements]
    cases checkValue table items (path ++ [.index position]) value with
    | error fault => rfl
    | ok => exact ih (position + 1)

theorem outcome_singleton (check : PendingCheck) :
    outcome table [check] = checkValue table check.node check.path check.value := by
  rw [outcome]
  cases checkValue table check.node check.path check.value <;> rfl

theorem ofMember?_eq_some_iff {properties : List (String × TypeNode)}
    {required : Option (List String)} {path : List ValueStep} {members : List (String × Json)}
    {name : String} {check : PendingCheck} :
    ofMember? properties required path members name = some check ↔
      ∃ value node, members.lookup name = some value ∧ properties.lookup name = some node ∧
        ¬(value = .null ∧ name ∉ required.getD []) ∧
          check = ⟨node, path ++ [.key name], value⟩ := by
  unfold ofMember?
  cases members.lookup name with
  | none => simp
  | some value =>
    cases properties.lookup name with
    | none => simp
    | some node =>
      cases value with
      | null =>
        cases hr : requires required name with
        | true => simp [requires_iff.mp hr, eq_comm (a := check)]
        | false => simp [mt requires_iff.mpr (Bool.not_eq_true _ ▸ hr)]
      | _ => simp [eq_comm (a := check)]

theorem outcome_ofMember {properties : List (String × TypeNode)} {required : Option (List String)}
    {path : List ValueStep} {members : List (String × Json)} {name : String} {value : Json}
    (hv : members.lookup name = some value) :
    outcome table (ofMember? properties required path members name).toList =
      table.checkMember properties required path name value := by
  cases hc : ofMember? properties required path members name with
  | some check =>
    obtain ⟨other, node, hv', hn, asked, rfl⟩ := ofMember?_eq_some_iff.mp hc
    cases Option.some.inj (hv.symm.trans hv')
    exact (outcome_singleton _).trans (TypeTable.checkMember_declared hn asked).symm
  | none =>
    cases hn : properties.lookup name with
    | none => exact (TypeTable.checkMember_undeclared hn).symm
    | some node =>
      by_cases skipped : value = .null ∧ name ∉ required.getD []
      · rw [skipped.1, TypeTable.checkMember_null skipped.2]
        rfl
      · cases hc.symm.trans (ofMember?_eq_some_iff.mpr ⟨value, node, hv, hn, skipped, rfl⟩)

theorem outcome_ofMembers (properties declared : List (String × TypeNode))
    (required : Option (List String)) (path : List ValueStep) (members : List (String × Json)) :
    outcome table ((declared.map Prod.fst).filterMap
        (ofMember? properties required path members)) =
      firstFailure (checkMembers table properties required path members) declared := by
  induction declared with
  | nil => rfl
  | cons property rest ih =>
    obtain ⟨name, node⟩ := property
    have split (names : List String) :
        (name :: names).filterMap (ofMember? properties required path members) =
          (ofMember? properties required path members name).toList ++
            names.filterMap (ofMember? properties required path members) := by
      rw [List.filterMap_cons]
      cases ofMember? properties required path members name <;> rfl
    rw [List.map_cons, split, outcome_append, ih, firstFailure, TypeTable.lookup_checkMembers]
    cases hv : members.lookup name with
    | none => simp [ofMember?, hv, outcome]
    | some value =>
      rw [outcome_ofMember hv, Option.map_some]
      cases table.checkMember properties required path name value <;> rfl

/-- The type of the check stands somewhere in the table. -/
def Placed (table : TypeTable) (check : PendingCheck) : Prop :=
  ∃ entry ∈ table.entries, check.node.Within entry.node

/-- One step says of a check as much as the whole check: it fails at once, or it comes out as the
checks do that are left. -/
theorem checkValue_eq_next (acyclic : table.ReferencesEnd) {check : PendingCheck}
    (placed : check.Placed table) :
    checkValue table check.node check.path check.value =
      match check.next table with
      | .error fault => .error fault
      | .ok rest => outcome table rest := by
  have alone (result : CheckResult) : result =
      match result.map fun _ => ([] : List PendingCheck) with
      | .error fault => .error fault
      | .ok rest => outcome table rest := by
    cases result <;> rfl
  obtain ⟨node, path, value⟩ := check
  obtain ⟨entry, hm, inside⟩ := placed
  cases node with
  | null => exact TypeTable.checkValue_null.trans (alone _)
  | boolean => exact TypeTable.checkValue_boolean.trans (alone _)
  | integer constraints => exact TypeTable.checkValue_integer.trans (alone _)
  | number constraints => exact TypeTable.checkValue_number.trans (alone _)
  | string constraints => exact TypeTable.checkValue_string.trans (alone _)
  | array items additionalItems constraints =>
    cases items with
    | none => exact TypeTable.checkValue_bareArray
    | some items =>
      refine TypeTable.checkValue_array.trans ?_
      cases value with
      | list elements =>
        simp only [next]
        cases demand (constraints.admits elements) .array path with
        | error fault => rfl
        | ok => exact (outcome_ofElements items path 0 elements).symm
      | _ => rfl
  | object properties required =>
    refine TypeTable.checkValue_object.trans ?_
    cases value with
    | object members =>
      simp only [next]
      cases missingMember? properties required members with
      | some name => rfl
      | none => exact (outcome_ofMembers properties _ required path members).symm
    | _ => rfl
  | enumeration values => exact TypeTable.checkValue_enumeration.trans (alone _)
  | reference pointer =>
    refine (acyclic.checkValue_resolve hm inside path value).trans ?_
    simp only [next]
    cases table.resolve pointer with
    | error fault => rfl
    | ok other =>
      simp only [outcome]
      cases checkValue table other.node [] value <;> rfl

theorem mem_ofElements {items : TypeNode} {path : List ValueStep} {start : Nat}
    {elements : List Json} {check : PendingCheck}
    (h : check ∈ ofElements items path start elements) :
    ∃ index value, elements[index]? = some value ∧
      check = ⟨items, path ++ [.index (start + index)], value⟩ := by
  induction elements generalizing start with
  | nil => cases h
  | cons value rest ih =>
    rcases List.mem_cons.mp h with rfl | h
    · exact ⟨0, value, rfl, rfl⟩
    · obtain ⟨index, element, he, rfl⟩ := ih h
      exact ⟨index + 1, element, he, by rw [Nat.add_assoc, Nat.add_comm 1]⟩

/-- A check leads to that of an element or of a member of its value or, behind a reference, to that
of the value itself. -/
theorem Asks.cases {check other : PendingCheck} (h : check.Asks table other) :
    (∃ items additionalItems constraints elements index value,
      check.node = .array (some items) additionalItems constraints ∧
      check.value = .list elements ∧ elements[index]? = some value ∧
      other = ⟨items, check.path ++ [.index index], value⟩) ∨
    (∃ properties required members name node value,
      check.node = .object properties required ∧ check.value = .object members ∧
      properties.lookup name = some node ∧ members.lookup name = some value ∧
      other = ⟨node, check.path ++ [.key name], value⟩) ∨
    ∃ pointer entry, check.node = .reference pointer ∧ table.resolve pointer = .ok entry ∧
      other = ⟨entry.node, [], check.value⟩ := by
  obtain ⟨rest, hn, hm⟩ := h
  obtain ⟨node, path, value⟩ := check
  have none {result : CheckResult}
      (h : result.map (fun _ => ([] : List PendingCheck)) = .ok rest) : other ∉ rest := by
    obtain ⟨_, -, rfl⟩ := exists_of_map_eq_ok h
    exact List.not_mem_nil
  cases node with
  | array items additionalItems constraints =>
    cases items with
    | none => cases hn
    | some items =>
      cases value with
      | list elements =>
        obtain ⟨_, -, rfl⟩ := exists_of_map_eq_ok hn
        obtain ⟨index, element, he, rfl⟩ := mem_ofElements hm
        rw [Nat.zero_add]
        exact .inl
          ⟨items, additionalItems, constraints, elements, index, element, rfl, rfl, he, rfl⟩
      | _ => cases hn
  | object properties required =>
    cases value with
    | object members =>
      simp only [next] at hn
      split at hn
      next => cases hn
      next =>
        cases hn
        obtain ⟨name, -, hc⟩ := List.mem_filterMap.mp hm
        obtain ⟨value, node, hv, hp, -, rfl⟩ := ofMember?_eq_some_iff.mp hc
        exact .inr (.inl ⟨properties, required, members, name, node, value, rfl, rfl, hp, hv, rfl⟩)
    | _ => cases hn
  | reference pointer =>
    simp only [next] at hn
    split at hn
    next => cases hn
    next entry hr =>
      cases hn
      obtain rfl := List.mem_singleton.mp hm
      exact .inr (.inr ⟨pointer, entry, rfl, hr, rfl⟩)
  | _ => exact absurd hm (none hn)

/-- Behind a reference the value is the same; all other checks lead into it. -/
theorem Asks.descends {check other : PendingCheck} (h : check.Asks table other) :
    check.node.isReference = true ∧ other.value = check.value ∨
      check.node.isReference = false ∧ ∃ step, other.path = check.path ++ [step] ∧
        Json.partAt? (some check.value) step = some (some other.value) ∧
        sizeOf other.value < sizeOf check.value := by
  rcases h.cases with ⟨_, _, _, elements, index, value, hn, hv, he, rfl⟩ |
    ⟨_, _, members, name, _, value, hn, hv, _, hm, rfl⟩ | ⟨_, _, hn, _, rfl⟩
  · have smaller := List.sizeOf_lt_of_mem (List.mem_of_getElem? he)
    refine .inr ⟨by rw [hn]; rfl, .index index, rfl, ?_, ?_⟩
    · rw [hv, ← he]
      rfl
    · rw [hv, Json.list.sizeOf_spec]
      exact smaller.trans_le (Nat.le_add_left _ 1)
  · have smaller := TypeTable.sizeOf_lt_of_lookup hm
    refine .inr ⟨by rw [hn]; rfl, .key name, rfl, ?_, ?_⟩
    · rw [hv, ← hm]
      rfl
    · rw [hv, Json.object.sizeOf_spec]
      exact smaller.trans_le (Nat.le_add_left _ 1)
  · exact .inl ⟨by rw [hn]; rfl, rfl⟩

theorem Placed.asks {check other : PendingCheck} (placed : check.Placed table)
    (h : check.Asks table other) : other.Placed table := by
  obtain ⟨entry, hm, inside⟩ := placed
  rcases h.cases with ⟨_, _, _, _, _, _, hn, _, _, rfl⟩ |
    ⟨_, _, _, name, node, _, hn, _, hp, _, rfl⟩ | ⟨_, next, _, hr, rfl⟩
  · rw [hn] at inside
    exact ⟨entry, hm, (TypeNode.Within.items .here).trans inside⟩
  · obtain ⟨before, after, rfl, -⟩ := List.lookup_eq_some_iff.mp hp
    rw [hn] at inside
    exact ⟨entry, hm, (TypeNode.Within.property (List.mem_append_cons_self) .here).trans inside⟩
  · exact ⟨next, TypeTable.resolve_mem hr, .here⟩

/-- What a whole run says is what the checks come out as that were pending at its beginning. -/
theorem outcome_of_runChecks (acyclic : table.ReferencesEnd) {steps : Nat}
    {pending : List PendingCheck} (placed : ∀ check ∈ pending, check.Placed table)
    {result : CheckResult} (h : table.runChecks steps pending = some result) :
    result = outcome table pending := by
  induction steps generalizing pending with
  | zero =>
    cases pending with
    | nil => exact (Option.some.inj h).symm
    | cons => cases h
  | succ steps ih =>
    cases pending with
    | nil => exact (Option.some.inj h).symm
    | cons check pending =>
      obtain ⟨here, placed⟩ := List.forall_mem_cons.mp placed
      rw [outcome, checkValue_eq_next acyclic here]
      rw [TypeTable.runChecks] at h
      cases hn : check.next table with
      | error fault =>
        rw [hn] at h
        exact (Option.some.inj h).symm
      | ok rest =>
        rw [hn] at h
        have further := ih (List.forall_mem_append.mpr
          ⟨fun other hm => here.asks ⟨rest, hn, hm⟩, placed⟩) h
        rw [further, outcome_append]

theorem Asks.of_isReference {check other : PendingCheck} (h : check.Asks table other)
    (hn : check.node.isReference = true) :
    ∃ pointer entry, check.node = .reference pointer ∧ table.resolve pointer = .ok entry ∧
      other = ⟨entry.node, [], check.value⟩ := by
  rcases h.cases with ⟨_, _, _, _, _, _, array, _⟩ | ⟨_, _, _, _, _, _, object, _⟩ | reference
  · simp [array, TypeNode.isReference] at hn
  · simp [object, TypeNode.isReference] at hn
  · exact reference

section

variable {value : Json} (smaller : ∀ check : PendingCheck, sizeOf check.value < sizeOf value →
  Acc (Function.swap (Asks table)) check)

include smaller

theorem acc_of_isReference_eq_false {check : PendingCheck} (same : check.value = value)
    (stop : check.node.isReference = false) : Acc (Function.swap (Asks table)) check := by
  refine ⟨_, fun other h => ?_⟩
  rcases Asks.descends h with ⟨reference, -⟩ | ⟨-, _, -, -, less⟩
  · simp [stop] at reference
  · exact smaller other (same ▸ less)

/-- The types of the table come in the order of their references. -/
theorem acc_of_mem (acyclic : table.ReferencesEnd) {entry : TypeEntry}
    (hm : entry ∈ table.entries) (path : List ValueStep) :
    Acc (Function.swap (Asks table)) ⟨entry.node, path, value⟩ := by
  revert path
  refine acyclic.induction (motive := fun entry => ∀ path,
    Acc (Function.swap (Asks table)) ⟨entry.node, path, value⟩) (fun entry _ forwards path => ?_) hm
  cases hn : entry.node.isReference with
  | false => exact acc_of_isReference_eq_false smaller rfl hn
  | true =>
    refine ⟨_, fun other h => ?_⟩
    obtain ⟨pointer, next, hp, hr, rfl⟩ := Asks.of_isReference h hn
    exact forwards next ⟨pointer, hp, hr⟩ []

end

/-- No check leads on and on: its value gets smaller, or a reference is followed, and no chain of
references comes back. -/
theorem acc_asks (acyclic : table.ReferencesEnd) (check : PendingCheck) :
    Acc (Function.swap (Asks table)) check := by
  induction size : sizeOf check.value using Nat.strong_induction_on generalizing check with
  | _ n ih =>
    subst size
    have smaller (other : PendingCheck) (less : sizeOf other.value < sizeOf check.value) :
        Acc (Function.swap (Asks table)) other := ih _ less other rfl
    cases hn : check.node.isReference with
    | false => exact acc_of_isReference_eq_false smaller rfl hn
    | true =>
      refine ⟨_, fun other h => ?_⟩
      obtain ⟨pointer, entry, -, hr, rfl⟩ := Asks.of_isReference h hn
      exact acc_of_mem smaller acyclic (TypeTable.resolve_mem hr) []

/-- A run that gets along with what is pending gets along with one more check. -/
theorem exists_runChecks_cons {check : PendingCheck} (h : Acc (Function.swap (Asks table)) check)
    {pending : List PendingCheck}
    (ends : ∃ steps result, table.runChecks steps pending = some result) :
    ∃ steps result, table.runChecks steps (check :: pending) = some result := by
  induction h generalizing pending with
  | intro check _ ih =>
    cases hn : check.next table with
    | error fault => exact ⟨1, .error fault, by rw [TypeTable.runChecks, hn]⟩
    | ok rest =>
      have front (checks : List PendingCheck) (asked : ∀ other ∈ checks, other ∈ rest) :
          ∃ steps result, table.runChecks steps (checks ++ pending) = some result := by
        induction checks with
        | nil => exact ends
        | cons other others more =>
          obtain ⟨here, there⟩ := List.forall_mem_cons.mp asked
          exact ih other ⟨rest, hn, here⟩ (more there)
      obtain ⟨steps, result, done⟩ := front rest fun _ hm => hm
      exact ⟨steps + 1, result, by rw [TypeTable.runChecks, hn]; exact done⟩

theorem exists_runChecks (acyclic : table.ReferencesEnd) (check : PendingCheck) :
    ∃ steps result, table.runChecks steps [check] = some result :=
  exists_runChecks_cons (acc_asks acyclic check) ⟨0, .ok (), rfl⟩

/-- As long as references are followed, each leads to a type that the one before it forwards to. -/
theorem exists_chain_of_asks {first : PendingCheck} {later : List PendingCheck}
    (linked : (first :: later).IsChain (Asks table))
    (references : ∀ check ∈ (first :: later).dropLast, check.node.isReference = true) :
    ∃ chain : List TypeEntry, chain.length = later.length ∧ chain.IsChain table.ForwardsTo ∧
      chain ⊆ table.entries ∧
      ∀ entry ∈ chain.head?, ∃ pointer, first.node = .reference pointer ∧
        table.resolve pointer = .ok entry := by
  induction later generalizing first with
  | nil => exact ⟨[], rfl, .nil, List.nil_subset _, by simp⟩
  | cons second later ih =>
    obtain ⟨here, linked⟩ := List.isChain_cons_cons.mp linked
    rw [List.dropLast_cons_cons] at references
    obtain ⟨reference, references⟩ := List.forall_mem_cons.mp references
    obtain ⟨pointer, entry, hp, hr, rfl⟩ := here.of_isReference reference
    obtain ⟨chain, length, forwards, inside, next⟩ := ih linked references
    refine ⟨entry :: chain, by simp [length], List.isChain_cons.mpr ⟨next, forwards⟩,
      List.cons_subset.mpr ⟨TypeTable.resolve_mem hr, inside⟩, ?_⟩
    rintro _ ⟨⟩
    exact ⟨pointer, hp, hr⟩

end PendingCheck

namespace TypeTable

variable {table : TypeTable}

/-- Checks a value against a named type one step after the other. -/
def runCheck (table : TypeTable) (steps : Nat) (typeName : String) (value : Json) :
    Option CheckResult :=
  match table.lookup? typeName with
  | none => some (.error (.schema (.unresolvedReference typeName)))
  | some entry => table.runChecks steps [⟨entry.node, [], value⟩]

/-- Where no chain of references comes back, every check ends, and with the result that the check
has. It goes down into smaller and smaller parts of the value, and from one to the next it follows
at most as many references as there are types. -/
theorem check_terminates (acyclic : table.ReferencesEnd) (typeName : String) (value : Json) :
    (∃ steps, table.runCheck steps typeName value = some (table.check typeName value)) ∧
    (∀ check other : PendingCheck, check.Asks table other →
      check.node.isReference = true ∧ other.value = check.value ∨
        check.node.isReference = false ∧ ∃ step, other.path = check.path ++ [step] ∧
          Json.partAt? (some check.value) step = some (some other.value) ∧
          sizeOf other.value < sizeOf check.value) ∧
    ∀ first later, (first :: later).IsChain (PendingCheck.Asks table) →
      (∀ check ∈ (first :: later).dropLast, check.node.isReference = true) →
      later.length ≤ table.size := by
  refine ⟨?_, fun _ _ => PendingCheck.Asks.descends, fun first later linked references => ?_⟩
  · unfold runCheck check
    cases known : table.lookup? typeName with
    | none => exact ⟨0, rfl⟩
    | some entry =>
      obtain ⟨steps, result, done⟩ := PendingCheck.exists_runChecks acyclic ⟨entry.node, [], value⟩
      have placed : ∀ check ∈ [(⟨entry.node, [], value⟩ : PendingCheck)], check.Placed table :=
        List.forall_mem_singleton.mpr ⟨entry, lookup?_mem known, .here⟩
      have same := PendingCheck.outcome_of_runChecks acyclic placed done
      rw [PendingCheck.outcome_singleton] at same
      exact ⟨steps, done.trans (congrArg some same)⟩
  · obtain ⟨chain, length, forwards, inside, -⟩ :=
      PendingCheck.exists_chain_of_asks linked references
    exact length ▸ acyclic.length_le forwards inside

/-- A type that contains itself by way of two references is checked three levels deep. -/
theorem check_terminates_chain : ∃ steps, chainTable.runCheck steps "Link" (.object
    [("text", .string "a"), ("next", .object [("text", .string "b"),
      ("next", .object [("text", .string "")])])]) =
        some (.error (.violation .stringLength [.key "text"])) := by
  obtain ⟨⟨steps, done⟩, -⟩ := check_terminates chainTable_referencesEnd "Link" (.object
    [("text", .string "a"), ("next", .object [("text", .string "b"),
      ("next", .object [("text", .string "")])])])
  exact ⟨steps, done.trans (congrArg some (by cbv))⟩

end TypeTable

end CheckedTypes
