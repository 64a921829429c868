import CheckedTypes.Proofs.NodePart
import CheckedTypes.Proofs.ReferenceChain

namespace CheckedTypes

@[simp] theorem demand_ok_iff {condition : Bool} {reason : Reason} {path : List ValueStep} :
    demand condition reason path = .ok () ↔ condition = true := by
  cases condition <;> simp [demand]

theorem requires_iff {required : Option (List String)} {name : String} :
    requires required name = true ↔ name ∈ required.getD [] := by
  simp [requires]

theorem checkString_text {constraints : StringConstraints} {path : List ValueStep}
    {text : String} :
    checkString constraints path (.string text) =
      match demand (constraints.admitsLength text) .stringLength path with
      | .error fault => .error fault
      | .ok _ => checkPattern constraints.pattern path text := by
  rw [checkString]
  cases hd : demand (constraints.admitsLength text) .stringLength path <;>
    simp [Json.asString?, hd, bind, Except.bind]

namespace TypeTable

variable {table : TypeTable} {path : List ValueStep}

/-- The result of one member: one that is not declared, and a null that need not be there, are not
looked at. -/
def checkMember (table : TypeTable) (properties : List (String × TypeNode))
    (required : Option (List String)) (path : List ValueStep) (name : String) (value : Json) :
    CheckResult :=
  match properties.lookup name with
  | none => .ok ()
  | some node =>
    if (value matches .null) && !requires required name then .ok ()
    else checkValue table node (path ++ [.key name]) value

theorem checkMember_undeclared {properties : List (String × TypeNode)}
    {required : Option (List String)} {name : String} {value : Json}
    (h : properties.lookup name = none) :
    table.checkMember properties required path name value = .ok () := by
  simp [checkMember, h]

theorem checkMember_null {properties : List (String × TypeNode)}
    {required : Option (List String)} {name : String} (h : name ∉ required.getD []) :
    table.checkMember properties required path name .null = .ok () := by
  rw [← requires_iff] at h
  unfold checkMember
  split <;> simp [h]

theorem checkMember_declared {properties : List (String × TypeNode)}
    {required : Option (List String)} {name : String} {node : TypeNode} {value : Json}
    (hn : properties.lookup name = some node)
    (h : ¬(value = .null ∧ name ∉ required.getD [])) :
    table.checkMember properties required path name value =
      checkValue table node (path ++ [.key name]) value := by
  rw [← requires_iff] at h
  cases value <;> simp_all [checkMember]

theorem checkMembers_cons {properties : List (String × TypeNode)}
    {required : Option (List String)} {name : String} {value : Json}
    {rest : List (String × Json)} :
    checkMembers table properties required path ((name, value) :: rest) =
      (name, table.checkMember properties required path name value) ::
        checkMembers table properties required path rest := by
  rw [checkMembers.eq_def]
  rfl

theorem lookup_checkMembers {properties : List (String × TypeNode)}
    {required : Option (List String)} {members : List (String × Json)} {name : String} :
    (checkMembers table properties required path members).lookup name =
      (members.lookup name).map (table.checkMember properties required path name) := by
  induction members with
  | nil => rfl
  | cons member rest ih =>
    obtain ⟨other, value⟩ := member
    simp only [checkMembers_cons, List.lookup_cons]
    split
    next he =>
      cases eq_of_beq he
      rfl
    next => exact ih

theorem firstFailure_ok_iff {results : List (String × CheckResult)}
    {properties : List (String × TypeNode)} :
    firstFailure results properties = .ok () ↔
      ∀ name ∈ properties.map Prod.fst, ∀ result, results.lookup name = some result →
        result = .ok () := by
  induction properties with
  | nil => simp [firstFailure]
  | cons property rest ih =>
    obtain ⟨name, node⟩ := property
    rw [firstFailure, List.map_cons, List.forall_mem_cons]
    split
    next fault he => simp [he]
    next hne =>
      rw [ih]
      refine (and_iff_right ?_).symm
      intro result hr
      cases result with
      | ok => rfl
      | error fault => exact absurd hr (hne fault)

theorem missingMember?_eq_none_iff {properties : List (String × TypeNode)}
    {required : Option (List String)} {members : List (String × Json)} :
    missingMember? properties required members = none ↔
      ∀ name ∈ required.getD [], name ∈ properties.map Prod.fst →
        (members.lookup name).isSome := by
  have names : ∀ name, name ∈ TypeNode.requiredNames (sortByName properties) required ↔
      name ∈ properties.map Prod.fst ∧ name ∈ required.getD [] := by
    intro name
    rw [(TypeNode.requiredNames_perm (sortByName_perm properties)).mem_iff]
    simp only [TypeNode.requiredNames, List.mem_filter, List.contains_eq_mem, decide_eq_true_eq]
  simp only [missingMember?, List.find?_eq_none, names, Option.isNone_iff_eq_none,
    Option.isSome_iff_ne_none, and_imp]
  exact forall_congr' fun name => ⟨fun h hr hp => h hp hr, fun h hp hr => h hr hp⟩

theorem checkElements_ok_iff {items : TypeNode} {position : Nat} {elements : List Json} :
    checkElements table items path position elements = .ok () ↔
      ∀ index value, elements[index]? = some value →
        checkValue table items (path ++ [.index (position + index)]) value = .ok () := by
  induction elements generalizing position with
  | nil => simp [checkElements]
  | cons first rest ih =>
    rw [checkElements]
    split
    next fault hf =>
      constructor
      · intro h
        cases h
      · intro h
        have := h 0 first rfl
        simp [hf] at this
    next hf =>
      rw [ih]
      constructor
      · rintro h (_ | index) value hv
        · cases Option.some.inj hv
          exact hf
        · have := h index value hv
          rwa [Nat.add_assoc, Nat.add_comm 1] at this
      · intro h index value hv
        have := h (index + 1) value hv
        rwa [Nat.add_comm index, ← Nat.add_assoc] at this

/-! What checking does with each kind of type, one equation for each. -/

theorem checkValue_null {value : Json} :
    checkValue table .null path value = demand (value matches .null) (.expected "null") path := by
  rw [checkValue.eq_def, dereference_self _ _ rfl]
  rfl

theorem checkValue_boolean {value : Json} :
    checkValue table .boolean path value =
      demand (value matches .boolean _) (.expected "boolean") path := by
  rw [checkValue.eq_def, dereference_self _ _ rfl]
  rfl

theorem checkValue_integer {constraints : NumericConstraints} {value : Json} :
    checkValue table (.integer constraints) path value = checkInteger constraints path value := by
  rw [checkValue.eq_def, dereference_self _ _ rfl]
  rfl

theorem checkValue_number {constraints : NumericConstraints} {value : Json} :
    checkValue table (.number constraints) path value = checkNumber constraints path value := by
  rw [checkValue.eq_def, dereference_self _ _ rfl]
  rfl

theorem checkValue_string {constraints : StringConstraints} {value : Json} :
    checkValue table (.string constraints) path value = checkString constraints path value := by
  rw [checkValue.eq_def, dereference_self _ _ rfl]
  rfl

theorem checkValue_bareArray {additionalItems : Bool} {constraints : ArrayConstraints}
    {value : Json} :
    checkValue table (.array none additionalItems constraints) path value =
      .error (.schema (.schemaShape (valuePathText path) "array must have item type")) := by
  rw [checkValue.eq_def, dereference_self _ _ rfl]
  rfl

theorem checkValue_array {items : TypeNode} {additionalItems : Bool}
    {constraints : ArrayConstraints} {value : Json} :
    checkValue table (.array (some items) additionalItems constraints) path value =
      match value with
      | .list elements =>
        match demand (constraints.admits elements) .array path with
        | .error fault => .error fault
        | .ok _ => checkElements table items path 0 elements
      | .null => .error (.violation .arrayPresent path)
      | _ => .error (.violation (.expected "array") path) := by
  rw [checkValue.eq_def, dereference_self _ _ rfl]
  rfl

theorem checkValue_object {properties : List (String × TypeNode)}
    {required : Option (List String)} {value : Json} :
    checkValue table (.object properties required) path value =
      match value with
      | .object members =>
        match missingMember? properties required members with
        | some name => .error (.violation .memberRequired (path ++ [.key name]))
        | none =>
          firstFailure (checkMembers table properties required path members)
            (sortByName properties)
      | _ => .error (.violation (.expected "object") path) := by
  rw [checkValue.eq_def, dereference_self _ _ rfl]
  rfl

theorem checkValue_enumeration {values : List String} {value : Json} :
    checkValue table (.enumeration values) path value =
      demand (value.asString?.any values.contains) .enumeration path := by
  rw [checkValue.eq_def, dereference_self _ _ rfl]
  rfl

end TypeTable

end CheckedTypes
