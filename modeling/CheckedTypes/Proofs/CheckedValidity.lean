import CheckedTypes.Proofs.Validity
import Mathlib

namespace CheckedTypes

theorem checkInteger_ok_iff {constraints : NumericConstraints} {path : List ValueStep}
    {value : Json} : checkInteger constraints path value = .ok () ↔
      ∃ x, value.asBinary64? = some x ∧ x.IsInteger ∧ constraints.Hold x := by
  unfold checkInteger
  split
  next hn =>
    simp only [Option.filter_eq_none_iff, Binary64.isIntegral_iff] at hn
    simpa using fun x hx hi => absurd hi (hn x hx)
  next x hx =>
    obtain ⟨hv, hi⟩ := Option.filter_eq_some_iff.mp hx
    rw [demand_ok_iff, NumericConstraints.admits_iff]
    simp [hv, Binary64.isIntegral_iff.mp hi]

theorem checkNumber_ok_iff {constraints : NumericConstraints} {path : List ValueStep}
    {value : Json} : checkNumber constraints path value = .ok () ↔
      ∃ x, value.asBinary64? = some x ∧ constraints.Hold x := by
  unfold checkNumber
  split
  next hn => simp [hn]
  next x hx => simp [hx, NumericConstraints.admits_iff]

theorem checkPattern_ok_iff {pattern : Option String} {path : List ValueStep} {text : String} :
    checkPattern pattern path text = .ok () ↔ ∀ source, pattern = some source →
      ∃ regex, Regex.ofText? source = some regex ∧ regex.isMatch text = true := by
  unfold checkPattern
  split
  next => simp
  next source =>
    split
    next hn => simp [hn]
    next regex hr => simp [hr]

theorem checkString_ok_iff {constraints : StringConstraints} {path : List ValueStep}
    {value : Json} : checkString constraints path value = .ok () ↔
      ∃ text, value = .string text ∧ constraints.Hold text := by
  have both : ∀ (text : String) (path : List ValueStep),
      (do demand (constraints.admitsLength text) .stringLength path
          checkPattern constraints.pattern path text) = .ok () ↔ constraints.Hold text := by
    intro text path
    cases ha : constraints.admitsLength text with
    | false =>
      have hn := mt StringConstraints.admitsLength_iff.mpr (Bool.not_eq_true _ ▸ ha)
      simpa [demand, bind, Except.bind] using fun h : constraints.Hold text =>
        hn ⟨h.minLength, h.maxLength, by simp⟩
    | true =>
      obtain ⟨least, most, -⟩ := StringConstraints.admitsLength_iff.mp ha
      simp only [demand, if_true, bind, Except.bind, checkPattern_ok_iff]
      exact ⟨fun h => ⟨least, most, h⟩, fun h => h.pattern⟩
  unfold checkString
  cases value with
  | string text => simpa [Json.asString?] using both text path
  | _ => simp [Json.asString?]

namespace TypeTable

variable {table : TypeTable}

theorem checkArray_ok_iff {items : TypeNode} {additionalItems : Bool}
    {constraints : ArrayConstraints} {path : List ValueStep} {value : Json} :
    checkValue table (.array (some items) additionalItems constraints) path value = .ok () ↔
      ∃ elements, value = .list elements ∧ constraints.Hold elements ∧
        ∀ index element, elements[index]? = some element →
          checkValue table items (path ++ [.index index]) element = .ok () := by
  rw [checkValue_array]
  cases value with
  | list elements =>
    cases ha : constraints.admits elements with
    | false =>
      have hn : ¬constraints.Hold elements := by simp [← ArrayConstraints.admits_iff, ha]
      simp [demand, ha, hn]
    | true =>
      have hc := ArrayConstraints.admits_iff.mp ha
      simp [demand, ha, hc, checkElements_ok_iff]
  | _ => simp

/-- The members pass if each that is declared, and is not null where it may be missing, does. -/
theorem checkMembers_ok_iff {properties : List (String × TypeNode)}
    {required : Option (List String)} {path : List ValueStep} {members : List (String × Json)} :
    firstFailure (checkMembers table properties required path members)
        (sortByName properties) = .ok () ↔
      ∀ name node value, properties.lookup name = some node →
        members.lookup name = some value → ¬(value = .null ∧ name ∉ required.getD []) →
          checkValue table node (path ++ [.key name]) value = .ok () := by
  rw [firstFailure_ok_iff]
  constructor
  · intro h name node value hn hv hne
    obtain ⟨_, _, he, -⟩ := List.lookup_eq_some_iff.mp hn
    have declared : name ∈ (sortByName properties).map Prod.fst := by
      rw [((sortByName_perm properties).map Prod.fst).mem_iff]
      simp [he]
    rw [← checkMember_declared hn hne]
    exact h name declared _ (by rw [lookup_checkMembers, hv]; rfl)
  · intro h name _ result hr
    rw [lookup_checkMembers] at hr
    obtain ⟨value, hv, rfl⟩ := Option.map_eq_some_iff.mp hr
    cases hn : properties.lookup name with
    | none => exact checkMember_undeclared hn
    | some node =>
      by_cases hnull : value = .null ∧ name ∉ required.getD []
      · rw [hnull.1]
        exact checkMember_null hnull.2
      · rw [checkMember_declared hn hnull]
        exact h name node value hn hv hnull

theorem checkObject_ok_iff {properties : List (String × TypeNode)}
    {required : Option (List String)} {path : List ValueStep} {value : Json} :
    checkValue table (.object properties required) path value = .ok () ↔
      ∃ members, value = .object members ∧
        (∀ name ∈ required.getD [], name ∈ properties.map Prod.fst →
          name ∈ members.map Prod.fst) ∧
        ∀ name node value, properties.lookup name = some node →
          members.lookup name = some value → ¬(value = .null ∧ name ∉ required.getD []) →
            checkValue table node (path ++ [.key name]) value = .ok () := by
  have present (members : List (String × Json)) :
      missingMember? properties required members = none ↔
        ∀ name ∈ required.getD [], name ∈ properties.map Prod.fst →
          name ∈ members.map Prod.fst := by
    rw [missingMember?_eq_none_iff]
    simp
  rw [checkValue_object]
  cases value with
  | object members =>
    dsimp only
    split
    next name hm =>
      refine iff_of_false (by simp) ?_
      rintro ⟨_, he, hp, -⟩
      cases he
      simp [(present members).mpr hp] at hm
    next hm =>
      rw [checkMembers_ok_iff]
      exact ⟨fun h => ⟨members, rfl, (present members).mp hm, h⟩, by
        rintro ⟨_, he, -, h⟩
        cases he
        exact h⟩
  | _ => simp

theorem EndsAt.of_valid {node : TypeNode} {value : Json} (h : Valid table node value) :
    ∃ target, table.EndsAt node target := by
  induction h with
  | reference hr _ ih =>
    obtain ⟨target, he⟩ := ih
    exact ⟨target, .there hr he⟩
  | _ => exact ⟨_, .here rfl⟩

theorem EndsAt.valid {node target : TypeNode} (h : table.EndsAt node target) {value : Json}
    (hv : Valid table target value) : Valid table node value := by
  induction h with
  | here => exact hv
  | there hr _ ih => exact .reference hr (ih hv)

theorem sizeOf_lt_of_lookup {members : List (String × Json)} {name : String} {value : Json}
    (h : members.lookup name = some value) : sizeOf value < sizeOf members := by
  obtain ⟨before, after, rfl, -⟩ := List.lookup_eq_some_iff.mp h
  have := List.sizeOf_lt_of_mem (show (name, value) ∈ before ++ (name, value) :: after by simp)
  simp only [Prod.mk.sizeOf_spec] at this
  omega

/-- Whatever passes is a value of the type. -/
theorem valid_of_check {node : TypeNode} {path : List ValueStep} {value : Json}
    (h : checkValue table node path value = .ok ()) : Valid table node value := by
  cases hd : table.dereference table.size node with
  | error fault => simp [checkValue.eq_def, hd] at h
  | ok reached =>
    obtain ⟨target, restarts⟩ := reached
    have ends := (endsAt_of_dereference hd).1
    rw [checkValue_dereference hd] at h
    generalize (if restarts then [] else path) = path at h
    apply ends.valid
    have hr := ends.isReference
    clear hd ends
    cases target with
    | null =>
      rw [checkValue_null, demand_ok_iff] at h
      cases value <;> first | exact .null | simp at h
    | boolean =>
      rw [checkValue_boolean, demand_ok_iff] at h
      cases value <;> first | exact .boolean | simp at h
    | integer constraints =>
      rw [checkValue_integer, checkInteger_ok_iff] at h
      obtain ⟨x, hx, hi, hc⟩ := h
      exact .integer hx hi hc
    | number constraints =>
      rw [checkValue_number, checkNumber_ok_iff] at h
      obtain ⟨x, hx, hc⟩ := h
      exact .number hx hc
    | string constraints =>
      rw [checkValue_string, checkString_ok_iff] at h
      obtain ⟨text, rfl, hc⟩ := h
      exact .string hc
    | array items additionalItems constraints =>
      cases items with
      | none => simp [checkValue_bareArray] at h
      | some items =>
        obtain ⟨elements, rfl, hc, h⟩ := checkArray_ok_iff.mp h
        refine .array hc fun value hm => ?_
        obtain ⟨index, hi⟩ := List.getElem?_of_mem hm
        exact valid_of_check (h index value hi)
    | object properties required =>
      obtain ⟨members, rfl, present, h⟩ := checkObject_ok_iff.mp h
      refine .object present fun name node value hn hv hne => ?_
      have smaller := sizeOf_lt_of_lookup hv
      exact valid_of_check (h name node value hn hv hne)
    | enumeration values =>
      rw [checkValue_enumeration, demand_ok_iff] at h
      cases value with
      | string text => exact .enumeration (by simpa [Json.asString?] using h)
      | _ => simp [Json.asString?] at h
    | reference pointer => simp [TypeNode.isReference] at hr
termination_by sizeOf value
decreasing_by
  · subst_vars
    have := List.sizeOf_lt_of_mem hm
    simp
    omega
  · subst_vars
    simp
    omega

/-- Every value of the type passes, under whatever path. -/
theorem check_of_valid (acyclic : table.ReferencesEnd) {node : TypeNode} {value : Json}
    (h : Valid table node value) (path : List ValueStep) :
    checkValue table node path value = .ok () := by
  induction h generalizing path with
  | null => simp [checkValue_null]
  | boolean => simp [checkValue_boolean]
  | integer hx hi hc => exact checkValue_integer.trans (checkInteger_ok_iff.mpr ⟨_, hx, hi, hc⟩)
  | number hx hc => exact checkValue_number.trans (checkNumber_ok_iff.mpr ⟨_, hx, hc⟩)
  | string hc => exact checkValue_string.trans (checkString_ok_iff.mpr ⟨_, rfl, hc⟩)
  | array hc _ ih =>
    exact checkArray_ok_iff.mpr ⟨_, rfl, hc, fun index value hi =>
      ih value (List.mem_of_getElem? hi) _⟩
  | object present _ ih =>
    exact checkObject_ok_iff.mpr ⟨_, rfl, present, fun name node value hn hv hne =>
      ih name node value hn hv hne _⟩
  | enumeration hm => simp [checkValue_enumeration, Json.asString?, hm]
  | reference hr hv ih =>
    obtain ⟨target, he⟩ := EndsAt.of_valid hv
    rw [checkValue_reference acyclic hr he]
    exact ih []

/-- A value passes the check of a named type exactly if it is one of its values. -/
theorem check_ok_iff_valid (acyclic : table.ReferencesEnd) {typeName : String} {entry : TypeEntry}
    (known : table.lookup? typeName = some entry) (value : Json) :
    table.check typeName value = .ok () ↔ Valid table entry.node value := by
  rw [check, known]
  exact ⟨valid_of_check, fun h => check_of_valid acyclic h []⟩

/-- A type that refers to itself by way of a type that is nothing but a reference. -/
def chainTable : TypeTable where
  entries := [
    ⟨"node", ["node"], .object [("text", .string { minLength := some 1 }),
      ("next", .reference "#/$defs/link")] (some ["text", "other"]), "Node"⟩,
    ⟨"link", ["link"], .reference "#/definitions/node", "Link"⟩]

theorem chainTable_referencesEnd : chainTable.ReferencesEnd := by
  obtain ⟨node, hnode, last⟩ : ∃ entry, chainTable.resolve "#/definitions/node" = .ok entry ∧
      entry.node.isReference = false := ⟨_, by cbv, rfl⟩
  refine .of_direct fun entry hm other h => ?_
  obtain ⟨pointer, hp, hother⟩ := h
  simp only [chainTable, List.mem_cons, List.not_mem_nil, or_false] at hm
  rcases hm with rfl | rfl
  · cases hp
  · cases hp
    cases Except.ok.inj (hnode.symm.trans hother)
    exact last

theorem check_ok_iff_valid_chain :
    Valid chainTable (.reference "#/definitions/node") (.object
      [("text", .string "a"), ("next", .object [("text", .string "b"), ("next", .null)])]) := by
  have known : chainTable.lookup? "Link" =
      some ⟨"link", ["link"], .reference "#/definitions/node", "Link"⟩ := by cbv
  exact (check_ok_iff_valid chainTable_referencesEnd known _).mp (by cbv)

end TypeTable

end CheckedTypes
