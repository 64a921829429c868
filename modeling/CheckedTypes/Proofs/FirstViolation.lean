import CheckedTypes.Proofs.CheckFault
import CheckedTypes.Proofs.SortedType
import CheckedTypes.Proofs.ValidatorRun
import CheckedTypes.Proofs.ValuePath

namespace CheckedTypes

theorem mem_of_sorted {names before after : List String} {name earlier : String}
    (sorted : names.Pairwise (· ≤ ·)) (split : names = before ++ name :: after)
    (hm : earlier ∈ names) (lt : earlier < name) : earlier ∈ before := by
  subst split
  rcases List.mem_append.mp hm with hm | hm
  · exact hm
  · rcases List.mem_cons.mp hm with rfl | later
    · exact absurd lt (lt_irrefl _)
    · have above := (List.pairwise_cons.mp (List.pairwise_append.mp sorted).2.1).1 earlier later
      exact absurd lt above.not_gt

namespace TypeNode

/-- The part of a type that a step leads to, which may be a reference but is not behind one. -/
def partAt? : TypeNode → ValueStep → Option TypeNode
  | .array items _ _, .index _ => items
  | .object properties _, .key name => properties.lookup name
  | _, _ => none

/-- The value fails the check of the type itself that the reason names, and no check of the type
itself before that. -/
inductive Refuses : TypeNode → Json → Reason → Prop
  | null {value} : value ≠ .null → Refuses .null value (.expected "null")
  | boolean {value} : (∀ b, value ≠ .boolean b) → Refuses .boolean value (.expected "boolean")
  | noInteger {constraints value} : (∀ x, value.asBinary64? = some x → ¬x.IsInteger) →
      Refuses (.integer constraints) value (.expected "integer")
  | integer {constraints value x} : value.asBinary64? = some x → x.IsInteger →
      ¬constraints.Hold x → Refuses (.integer constraints) value .integer
  | noNumber {constraints value} : value.asBinary64? = none →
      Refuses (.number constraints) value (.expected "number")
  | number {constraints value x} : value.asBinary64? = some x → ¬constraints.Hold x →
      Refuses (.number constraints) value .number
  | noString {constraints value} : (∀ text, value ≠ .string text) →
      Refuses (.string constraints) value (.expected "string")
  | length {constraints text} : ¬{ constraints with pattern := none }.Hold text →
      Refuses (.string constraints) (.string text) .stringLength
  /-- The length is looked at before the pattern. -/
  | pattern {constraints text source regex} : { constraints with pattern := none }.Hold text →
      constraints.pattern = some source → Regex.ofText? source = some regex →
      regex.isMatch text = false → Refuses (.string constraints) (.string text) .stringPattern
  | absent {items additionalItems constraints} :
      Refuses (.array (some items) additionalItems constraints) .null .arrayPresent
  | noArray {items additionalItems constraints value} : value ≠ .null →
      (∀ elements, value ≠ .list elements) →
      Refuses (.array (some items) additionalItems constraints) value (.expected "array")
  | array {items additionalItems constraints elements} : ¬constraints.Hold elements →
      Refuses (.array (some items) additionalItems constraints) (.list elements) .array
  | noObject {properties required value} : (∀ members, value ≠ .object members) →
      Refuses (.object properties required) value (.expected "object")
  | enumeration {values value} : (∀ text ∈ values, value ≠ .string text) →
      Refuses (.enumeration values) value .enumeration

/-- The object lacks a property that its type requires, and none that comes before it in the order
of names. -/
inductive Misses : TypeNode → Json → String → Prop
  | mk {properties required members name} : name ∈ requiredNames properties required →
      members.lookup name = none →
      (∀ earlier ∈ requiredNames properties required, earlier < name →
        (members.lookup earlier).isSome) →
      Misses (.object properties required) (.object members) name

end TypeNode

namespace TypeTable

/-- The steps lead from one value to another, past nothing that fails: what is checked before the
value at the end, on the way and beside it, holds. -/
inductive Descends (table : TypeTable) (root : TypeNode) (start : Json) :
    List ValueStep → TypeNode → Json → Prop
  | here : Descends table root start [] root start
  | element {path items additionalItems constraints elements position element} :
      Descends table root start path (.array (some items) additionalItems constraints)
        (.list elements) →
      constraints.Hold elements → elements[position]? = some element →
      (∀ earlier ∈ elements.take position, Valid table items earlier) →
      Descends table root start (path ++ [.index position]) items element
  | member {path properties required members name node value} :
      Descends table root start path (.object properties required) (.object members) →
      (∀ name ∈ TypeNode.requiredNames properties required, (members.lookup name).isSome) →
      properties.lookup name = some node → members.lookup name = some value →
      ¬(value = .null ∧ name ∉ required.getD []) →
      (∀ earlier < name, ∀ node value, properties.lookup earlier = some node →
        members.lookup earlier = some value → ¬(value = .null ∧ earlier ∉ required.getD []) →
          Valid table node value) →
      Descends table root start (path ++ [.key name]) node value

/-- The check arrives at a value with a new path: it begins there, or a reference is there. -/
inductive Enters (table : TypeTable) (node : TypeNode) (value : Json) : TypeNode → Json → Prop
  | start : Enters table node value node value
  | reference {root start path pointer sub entry} : Enters table node value root start →
      Descends table root start path (.reference pointer) sub →
      table.resolve pointer = .ok entry → Enters table node value entry.node sub

variable {table : TypeTable}

theorem Descends.node_at {root : TypeNode} {start : Json} {path : List ValueStep} {node : TypeNode}
    {value : Json} (h : table.Descends root start path node value) :
    path.foldlM TypeNode.partAt? root = some node := by
  induction h with
  | here => rfl
  | element _ _ _ _ ih =>
    rw [List.foldlM_append, ih]
    rfl
  | member _ _ hn _ _ _ ih =>
    rw [List.foldlM_append, ih]
    exact (bind_pure _).trans hn

theorem Descends.value_at {root : TypeNode} {start : Json} {path : List ValueStep}
    {node : TypeNode} {value : Json} (h : table.Descends root start path node value) :
    path.foldlM Json.partAt? (some start) = some (some value) := by
  induction h with
  | here => rfl
  | element _ _ he _ ih =>
    rw [List.foldlM_append, ih, ← he]
    rfl
  | member _ _ _ hv _ _ ih =>
    rw [List.foldlM_append, ih, ← hv]
    rfl

/-- Where references are followed, the path starts anew. -/
theorem Enters.endsAt {whole root node target : TypeNode} {value start sub : Json}
    {path : List ValueStep} (entered : table.Enters whole value root start)
    (reached : table.Descends root start path node sub) (ends : table.EndsAt node target) :
    ∃ root start, table.Enters whole value root start ∧
      table.Descends root start (if node.isReference then [] else path) target sub := by
  induction ends generalizing root start path with
  | here h =>
    rw [if_neg (by simp [h])]
    exact ⟨root, start, entered, reached⟩
  | @there pointer entry target hr ends ih =>
    obtain ⟨root, start, entered, reached⟩ := ih (entered.reference reached hr) .here
    refine ⟨root, start, entered, ?_⟩
    rwa [ite_self] at reached

end TypeTable

section

variable {table : TypeTable} {path place : List ValueStep} {value : Json} {fault : CheckError}
  {reason : Reason}

theorem violation_of_demand {condition : Bool} {other : Reason}
    (h : demand condition other path = .error (.violation reason place)) :
    place = path ∧ reason = other ∧ condition = false := by
  obtain ⟨refused, same⟩ := demand_eq_error_iff.mp h
  cases same
  exact ⟨rfl, rfl, refused⟩

theorem refuses_of_checkInteger {constraints : NumericConstraints}
    (h : checkInteger constraints path value = .error (.violation reason place)) :
    place = path ∧ (TypeNode.integer constraints).Refuses value reason := by
  unfold checkInteger at h
  split at h
  next none =>
    cases h
    refine ⟨rfl, .noInteger fun x hx integer => ?_⟩
    exact Option.filter_eq_none_iff.mp none x hx (Binary64.isIntegral_iff.mpr integer)
  next x hx =>
    obtain ⟨hv, integer⟩ := Option.filter_eq_some_iff.mp hx
    obtain ⟨rfl, rfl, refused⟩ := violation_of_demand h
    refine ⟨rfl, .integer hv (Binary64.isIntegral_iff.mp integer) ?_⟩
    simp [← NumericConstraints.admits_iff, refused]

theorem refuses_of_checkNumber {constraints : NumericConstraints}
    (h : checkNumber constraints path value = .error (.violation reason place)) :
    place = path ∧ (TypeNode.number constraints).Refuses value reason := by
  unfold checkNumber at h
  split at h
  next none =>
    cases h
    exact ⟨rfl, .noNumber none⟩
  next x hx =>
    obtain ⟨rfl, rfl, refused⟩ := violation_of_demand h
    exact ⟨rfl, .number hx (by simp [← NumericConstraints.admits_iff, refused])⟩

theorem refuses_of_checkString {constraints : StringConstraints}
    (h : checkString constraints path value = .error (.violation reason place)) :
    place = path ∧ (TypeNode.string constraints).Refuses value reason := by
  cases value with
  | string text =>
    rw [checkString_text] at h
    split at h
    next refusal hd =>
      cases h
      obtain ⟨rfl, rfl, refused⟩ := violation_of_demand hd
      exact ⟨rfl, .length (by simp [← StringConstraints.admitsLength_iff, refused])⟩
    next hd =>
      have long := StringConstraints.admitsLength_iff.mp (demand_ok_iff.mp hd)
      unfold checkPattern at h
      split at h
      next => cases h
      next source hs =>
        split at h
        next => cases h
        next regex hr =>
          obtain ⟨rfl, rfl, refused⟩ := violation_of_demand h
          exact ⟨rfl, .pattern long hs hr refused⟩
  | _ =>
    cases h
    exact ⟨rfl, .noString (by simp)⟩

theorem misses_of_missingMember {properties : List (String × TypeNode)}
    {required : Option (List String)} {members : List (String × Json)} {name : String}
    (h : missingMember? properties required members = some name) :
    (TypeNode.object properties required).Misses (.object members) name := by
  obtain ⟨absent, before, after, split, present⟩ := List.find?_eq_some_iff_append.mp h
  have perm : (TypeNode.requiredNames (sortByName properties) required).Perm
      (TypeNode.requiredNames properties required) :=
    TypeNode.requiredNames_perm (sortByName_perm properties)
  have sorted : (TypeNode.requiredNames (sortByName properties) required).Pairwise (· ≤ ·) :=
    (sortByName_sorted properties).sublist List.filter_sublist
  have asked : name ∈ TypeNode.requiredNames (sortByName properties) required := by simp [split]
  refine .mk (perm.subset asked) (by simpa using absent) fun earlier hm lt => ?_
  simpa using present earlier (mem_of_sorted sorted split (perm.symm.subset hm) lt)

/-- The first element that fails, those before it being values of the type. -/
theorem first_of_checkElements {items : TypeNode} {position : Nat} {elements : List Json}
    (h : checkElements table items path position elements = .error fault) :
    ∃ index element, elements[index]? = some element ∧
      (∀ earlier ∈ elements.take index, Valid table items earlier) ∧
      checkValue table items (path ++ [.index (position + index)]) element = .error fault := by
  induction elements generalizing position with
  | nil => simp [checkElements] at h
  | cons first rest ih =>
    rw [checkElements] at h
    split at h
    next other hf =>
      cases Except.error.inj h
      exact ⟨0, first, rfl, by simp, hf⟩
    next hf =>
      obtain ⟨index, element, he, earlier, hc⟩ := ih h
      rw [Nat.add_assoc, Nat.add_comm 1] at hc
      refine ⟨index + 1, element, he, ?_, hc⟩
      rw [List.take_succ_cons]
      exact List.forall_mem_cons.mpr ⟨TypeTable.valid_of_check hf, earlier⟩

theorem first_of_firstFailure {results : List (String × CheckResult)}
    {properties : List (String × TypeNode)} (h : firstFailure results properties = .error fault) :
    ∃ before name after, properties.map Prod.fst = before ++ name :: after ∧
      results.lookup name = some (.error fault) ∧
      ∀ earlier ∈ before, ∀ result, results.lookup earlier = some result → result = .ok () := by
  induction properties with
  | nil => simp [firstFailure] at h
  | cons property rest ih =>
    obtain ⟨name, node⟩ := property
    rw [firstFailure] at h
    split at h
    next other hf =>
      cases Except.error.inj h
      exact ⟨[], name, _, rfl, hf, by simp⟩
    next passed =>
      obtain ⟨before, other, after, split, hf, earlier⟩ := ih h
      refine ⟨name :: before, other, after, congrArg (name :: ·) split, hf, ?_⟩
      refine List.forall_mem_cons.mpr ⟨fun result hr => ?_, earlier⟩
      cases result with
      | ok => rfl
      | error fault => exact absurd hr (passed fault)

end

namespace TypeTable

variable {table : TypeTable} {path place : List ValueStep} {reason : Reason}

/-- The first member that fails, those with smaller names being values of their types. -/
theorem first_of_checkMembers {properties : List (String × TypeNode)}
    {required : Option (List String)} {members : List (String × Json)} {fault : CheckError}
    (h : firstFailure (checkMembers table properties required path members)
      (sortByName properties) = .error fault) :
    ∃ name node value, properties.lookup name = some node ∧ members.lookup name = some value ∧
      ¬(value = .null ∧ name ∉ required.getD []) ∧
      (∀ earlier < name, ∀ node value, properties.lookup earlier = some node →
        members.lookup earlier = some value → ¬(value = .null ∧ earlier ∉ required.getD []) →
          Valid table node value) ∧
      checkValue table node (path ++ [.key name]) value = .error fault := by
  obtain ⟨before, name, after, split, hf, passed⟩ := first_of_firstFailure h
  rw [lookup_checkMembers] at hf
  obtain ⟨value, hv, hf⟩ := Option.map_eq_some_iff.mp hf
  cases hn : properties.lookup name with
  | none => simp [checkMember_undeclared hn] at hf
  | some node =>
    by_cases hnull : value = .null ∧ name ∉ required.getD []
    · simp [hnull.1, checkMember_null hnull.2] at hf
    · rw [checkMember_declared hn hnull] at hf
      refine ⟨name, node, value, hn, hv, hnull, ?_, hf⟩
      intro earlier lt node value hn hv hnull
      have declared : earlier ∈ (sortByName properties).map Prod.fst := by
        obtain ⟨_, _, he, -⟩ := List.lookup_eq_some_iff.mp hn
        rw [((sortByName_perm properties).map Prod.fst).mem_iff]
        simp [he]
      have front := mem_of_sorted (sortByName_sorted properties) split declared lt
      have result := passed earlier front _ (by rw [lookup_checkMembers, hv]; rfl)
      rw [checkMember_declared hn hnull] at result
      exact valid_of_check result

theorem dereference_ne_violation {hops : Nat} {node : TypeNode} :
    table.dereference hops node ≠ .error (.violation reason place) := by
  intro h
  induction hops generalizing node with
  | zero => cases node <;> cases h
  | succ hops ih =>
    cases node with
    | reference pointer =>
      cases hr : table.resolve pointer with
      | error fault => simp [dereference, hr] at h
      | ok entry =>
        rw [dereference_reference hr] at h
        cases hd : table.dereference hops entry.node with
        | ok found =>
          rw [hd] at h
          cases h
        | error fault =>
          rw [hd] at h
          cases h
          exact ih hd
    | _ => cases h

/-- The ways to violate a type that is not a reference: the type itself refuses the value, a member
is missing, or a smaller part violates its type, further along the path. -/
inductive Violates (table : TypeTable) (root : TypeNode) (start : Json)
    (path place : List ValueStep) (reason : Reason) (node : TypeNode) (value : Json) : Prop
  | refused : place = path → node.Refuses value reason →
      Violates table root start path place reason node value
  | missing {name} : place = path ++ [.key name] → reason = .memberRequired →
      node.Misses value name → Violates table root start path place reason node value
  | below {step next part} : sizeOf part < sizeOf value →
      table.Descends root start (path ++ [step]) next part →
      checkValue table next (path ++ [step]) part = .error (.violation reason place) →
      Violates table root start path place reason node value

theorem violates_of_array {root items : TypeNode} {start value : Json} {additionalItems : Bool}
    {constraints : ArrayConstraints}
    (reached : table.Descends root start path (.array (some items) additionalItems constraints)
      value)
    (h : checkValue table (.array (some items) additionalItems constraints) path value =
      .error (.violation reason place)) :
    table.Violates root start path place reason
      (.array (some items) additionalItems constraints) value := by
  rw [checkValue_array] at h
  split at h
  next elements =>
    split at h
    next refusal hd =>
      cases h
      obtain ⟨rfl, rfl, refused⟩ := violation_of_demand hd
      exact .refused rfl (.array (by simp [← ArrayConstraints.admits_iff, refused]))
    next hd =>
      have hold := ArrayConstraints.admits_iff.mp (demand_ok_iff.mp hd)
      obtain ⟨index, element, he, earlier, hc⟩ := first_of_checkElements h
      rw [Nat.zero_add] at hc
      have smaller := List.sizeOf_lt_of_mem (List.mem_of_getElem? he)
      refine .below ?_ (reached.element hold he earlier) hc
      simp only [Json.list.sizeOf_spec]
      omega
  next =>
    cases h
    exact .refused rfl .absent
  next noList noNull =>
    cases h
    exact .refused rfl (.noArray noNull noList)

theorem violates_of_object {root : TypeNode} {start value : Json}
    {properties : List (String × TypeNode)} {required : Option (List String)}
    (reached : table.Descends root start path (.object properties required) value)
    (h : checkValue table (.object properties required) path value =
      .error (.violation reason place)) :
    table.Violates root start path place reason (.object properties required) value := by
  rw [checkValue_object] at h
  split at h
  next members =>
    split at h
    next name hm =>
      cases h
      exact .missing rfl rfl (misses_of_missingMember hm)
    next hm =>
      obtain ⟨name, node, part, hn, hv, asked, earlier, hc⟩ := first_of_checkMembers h
      have present : ∀ name ∈ TypeNode.requiredNames properties required,
          (members.lookup name).isSome := by
        intro name hr
        obtain ⟨declared, asked⟩ := List.mem_filter.mp hr
        exact missingMember?_eq_none_iff.mp hm name (by simpa using asked) declared
      have smaller := sizeOf_lt_of_lookup hv
      refine .below ?_ (reached.member present hn hv asked earlier) hc
      simp only [Json.object.sizeOf_spec]
      omega
  next noObject =>
    cases h
    exact .refused rfl (.noObject noObject)

theorem violates_of_checkValue {root node : TypeNode} {start value : Json}
    (stop : node.isReference = false) (reached : table.Descends root start path node value)
    (h : checkValue table node path value = .error (.violation reason place)) :
    table.Violates root start path place reason node value := by
  have own (refused : place = path ∧ node.Refuses value reason) :
      table.Violates root start path place reason node value := .refused refused.1 refused.2
  cases node with
  | null =>
    rw [checkValue_null] at h
    obtain ⟨rfl, rfl, refused⟩ := violation_of_demand h
    exact .refused rfl (.null (by rintro rfl; simp at refused))
  | boolean =>
    rw [checkValue_boolean] at h
    obtain ⟨rfl, rfl, refused⟩ := violation_of_demand h
    exact .refused rfl (.boolean (by rintro b rfl; simp at refused))
  | integer constraints =>
    rw [checkValue_integer] at h
    exact own (refuses_of_checkInteger h)
  | number constraints =>
    rw [checkValue_number] at h
    exact own (refuses_of_checkNumber h)
  | string constraints =>
    rw [checkValue_string] at h
    exact own (refuses_of_checkString h)
  | array items additionalItems constraints =>
    cases items with
    | none =>
      rw [checkValue_bareArray] at h
      cases h
    | some items => exact violates_of_array reached h
  | object properties required => exact violates_of_object reached h
  | enumeration values =>
    rw [checkValue_enumeration] at h
    obtain ⟨rfl, rfl, refused⟩ := violation_of_demand h
    refine .refused rfl (.enumeration ?_)
    rintro text hm rfl
    simp [Json.asString?, hm] at refused
  | reference pointer => simp [TypeNode.isReference] at stop

/-- What a violation is about: the first check that fails below where the check arrived last with a
new path. -/
theorem exists_first {whole : TypeNode} {value : Json} {root node : TypeNode} {start sub : Json}
    {path : List ValueStep} (entered : table.Enters whole value root start)
    (reached : table.Descends root start path node sub)
    (h : checkValue table node path sub = .error (.violation reason place)) :
    ∃ root start before node sub, table.Enters whole value root start ∧
      table.Descends root start before node sub ∧
      (place = before ∧ node.Refuses sub reason ∨
        ∃ name, place = before ++ [.key name] ∧ reason = .memberRequired ∧
          node.Misses sub name) := by
  cases hd : table.dereference table.size node with
  | error other =>
    rw [checkValue.eq_def, hd] at h
    cases h
    exact absurd hd dereference_ne_violation
  | ok found =>
    obtain ⟨target, restarts⟩ := found
    obtain ⟨ends, rfl⟩ := endsAt_of_dereference hd
    rw [checkValue_dereference hd] at h
    obtain ⟨root, start, entered, reached⟩ := entered.endsAt reached ends
    cases violates_of_checkValue ends.isReference reached h with
    | refused here refuses =>
      exact ⟨root, start, _, target, sub, entered, reached, .inl ⟨here, refuses⟩⟩
    | missing behind demanded misses =>
      exact ⟨root, start, _, target, sub, entered, reached, .inr ⟨_, behind, demanded, misses⟩⟩
    | below smaller further h => exact exists_first entered further h
termination_by sizeOf sub

/-- A violation is the first one in the order of the checks, and its path leads to what it is
about, from where the check arrived last with a new path. -/
theorem check_violation_exact {typeName : String} {value : Json}
    (h : table.check typeName value = .error (.violation reason path)) :
    (∀ segments, valuePathText segments = valuePathText path → segments = path) ∧
    ∃ entry root start before node sub,
      table.lookup? typeName = some entry ∧ table.Enters entry.node value root start ∧
      table.Descends root start before node sub ∧
      before.foldlM TypeNode.partAt? root = some node ∧
      before.foldlM Json.partAt? (some start) = some (some sub) ∧
      (path = before ∧ node.Refuses sub reason ∨
        ∃ name, path = before ++ [.key name] ∧ reason = .memberRequired ∧
          node.Misses sub name) := by
  refine ⟨fun segments same => valuePathText_injective same, ?_⟩
  unfold check at h
  split at h
  next => cases h
  next entry known =>
    obtain ⟨root, start, before, node, sub, entered, reached, first⟩ := exists_first .start .here h
    exact ⟨entry, root, start, before, node, sub, known, entered, reached, reached.node_at,
      reached.value_at, first⟩

/-- A list of entries with marks of one character. -/
def entryTable : TypeTable where
  entries := [
    ⟨"list", ["list"], .object [("entries",
      .array (some (.reference "#/definitions/entry")) true {})] none, "List"⟩,
    ⟨"entry", ["entry"], .object [("name", .string {}),
      ("marks", .array (some (.string { maxLength := some 1 })) true {})] (some ["name"]), "Entry"⟩]

def entryList : Json :=
  .object [("entries", .list [.object [("name", .string "first")],
    .object [("name", .string "second"), ("marks", .list [.string "a", .string "bc"])]])]

/-- The path begins at the second entry, behind the reference. -/
theorem check_violation_exact_entry :
    ∃ (entry : TypeEntry) (root node : TypeNode) (start sub : Json),
      entryTable.lookup? "list" = some entry ∧
      entryTable.Enters entry.node entryList root start ∧
      [ValueStep.key "marks", .index 1].foldlM Json.partAt? (some start) = some (some sub) ∧
      node.Refuses sub .stringLength := by
  have violated : entryTable.check "list" entryList =
      .error (.violation .stringLength [.key "marks", .index 1]) := by cbv
  obtain ⟨-, entry, root, start, before, node, sub, known, entered, -, -, reached,
    ⟨rfl, refused⟩ | ⟨_, _, other, _⟩⟩ := check_violation_exact violated
  · exact ⟨entry, root, node, start, sub, known, entered, reached, refused⟩
  · cases other

end TypeTable

end CheckedTypes
