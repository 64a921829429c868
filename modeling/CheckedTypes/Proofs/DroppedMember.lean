import CheckedTypes.Proofs.CheckedRun

namespace CheckedTypes

section

variable {α : Type} {members : List (String × α)} {name other : String}

theorem mem_of_lookup {a : α} (h : members.lookup name = some a) : (name, a) ∈ members := by
  obtain ⟨before, after, rfl, -⟩ := List.lookup_eq_some_iff.mp h
  simp

theorem lookup_filter_self :
    (members.filter fun member => member.1 != name).lookup name = none := by
  rw [List.lookup_eq_none_iff]
  intro member hm
  have apart : member.1 ≠ name := by simpa using (List.mem_filter.mp hm).2
  simpa using Ne.symm apart

theorem lookup_filter_ne (h : other ≠ name) :
    (members.filter fun member => member.1 != name).lookup other = members.lookup other := by
  induction members with
  | nil => rfl
  | cons member rest ih =>
    obtain ⟨first, a⟩ := member
    rw [List.filter_cons]
    split
    next => rw [List.lookup_cons, List.lookup_cons, ih]
    next hf =>
      have same : first = name := by simpa using hf
      rw [ih, List.lookup_cons, same, beq_false_of_ne h]

theorem lookup_insertMember_self (a : α) : (insertMember name a members).lookup name = some a := by
  induction members with
  | nil => simp [insertMember]
  | cons member rest ih =>
    obtain ⟨first, b⟩ := member
    rw [insertMember]
    split
    next => simp
    next hf => rw [List.lookup_cons, beq_false_of_ne (Ne.symm hf), ih]

theorem lookup_insertMember_ne (a : α) (h : other ≠ name) :
    (insertMember name a members).lookup other = members.lookup other := by
  induction members with
  | nil => simp [insertMember, h]
  | cons member rest ih =>
    obtain ⟨first, b⟩ := member
    rw [insertMember]
    split
    next hf => rw [List.lookup_cons, List.lookup_cons, hf, beq_false_of_ne h]
    next => rw [List.lookup_cons, List.lookup_cons, ih]

end

namespace TypeTable

/-- The second value is the first without one member, which is null there and which its object
declares, as being of the type `gone`, and does not require. No array that it stands in has to have
distinct elements. -/
inductive Drops (table : TypeTable) (name : String) (gone : TypeNode) :
    TypeNode → Json → Json → Prop
  | here {properties required members} : properties.lookup name = some gone →
      name ∉ required.getD [] → members.lookup name = some .null →
      Drops table name gone (.object properties required) (.object members)
        (.object (members.filter fun member => member.1 != name))
  | member {properties required members other node value rest} :
      properties.lookup other = some node → members.lookup other = some value →
      Drops table name gone node value rest →
      Drops table name gone (.object properties required) (.object members)
        (.object (insertMember other rest members))
  | element {items additionalItems constraints elements index value rest} :
      constraints.uniqueItems = false → elements[index]? = some value →
      Drops table name gone items value rest →
      Drops table name gone (.array (some items) additionalItems constraints) (.list elements)
        (.list (elements.set index rest))
  | reference {pointer entry value rest} : table.resolve pointer = .ok entry →
      Drops table name gone entry.node value rest →
      Drops table name gone (.reference pointer) value rest

variable {table : TypeTable} {name : String} {gone node : TypeNode} {value rest : Json}

theorem Drops.ne_null (h : table.Drops name gone node value rest) :
    value ≠ .null ∧ rest ≠ .null := by
  induction h with
  | reference _ _ ih => exact ih
  | _ => exact ⟨nofun, nofun⟩

theorem find?_congr {α : Type} {p q : α → Bool} {list : List α} (h : ∀ a ∈ list, p a = q a) :
    list.find? p = list.find? q := by
  induction list with
  | nil => rfl
  | cons a rest ih =>
    obtain ⟨first, others⟩ := List.forall_mem_cons.mp h
    rw [List.find?_cons, List.find?_cons, first, ih others]

theorem missingMember?_congr {properties : List (String × TypeNode)}
    {required : Option (List String)} {members others : List (String × Json)}
    (h : ∀ name ∈ required.getD [], (members.lookup name).isNone = (others.lookup name).isNone) :
    missingMember? properties required members = missingMember? properties required others := by
  refine find?_congr fun name hm => h name ?_
  simpa using (List.mem_filter.mp hm).2

theorem firstFailure_congr {results found : List (String × CheckResult)}
    {properties others : List (String × TypeNode)}
    (names : others.map Prod.fst = properties.map Prod.fst)
    (h : ∀ name, (found.lookup name).getD (.ok ()) = (results.lookup name).getD (.ok ())) :
    firstFailure found others = firstFailure results properties := by
  induction properties generalizing others with
  | nil =>
    cases List.map_eq_nil_iff.mp names
    rfl
  | cons property rest ih =>
    obtain ⟨name, node⟩ := property
    obtain ⟨twin, more, rfl, hn, hm⟩ := List.map_eq_cons_iff.mp names
    obtain ⟨_, twin⟩ := twin
    cases hn
    rw [firstFailure_cons, firstFailure_cons, h name, ih hm]

/-- Objects with the same members missing and with members that are checked alike are checked
alike. -/
theorem checkValue_object_congr {properties : List (String × TypeNode)}
    {required : Option (List String)} {members others : List (String × Json)}
    {path : List ValueStep}
    (missing : ∀ name ∈ required.getD [],
      (members.lookup name).isNone = (others.lookup name).isNone)
    (alike : ∀ name,
      ((members.lookup name).map (table.checkMember properties required path name)).getD (.ok ()) =
        ((others.lookup name).map (table.checkMember properties required path name)).getD
          (.ok ())) :
    checkValue table (.object properties required) path (.object members) =
      checkValue table (.object properties required) path (.object others) := by
  rw [checkValue_object, checkValue_object]
  dsimp only
  rw [missingMember?_congr missing]
  split
  next => rfl
  next =>
    exact firstFailure_congr rfl fun name => by rw [lookup_checkMembers, lookup_checkMembers, alike]

theorem checkElements_set {items : TypeNode} {path : List ValueStep} {position index : Nat}
    {elements : List Json} (hv : elements[index]? = some value)
    (h : ∀ path, checkValue table items path value = checkValue table items path rest) :
    checkElements table items path position elements =
      checkElements table items path position (elements.set index rest) := by
  induction elements generalizing position index with
  | nil => cases hv
  | cons first others ih =>
    cases index with
    | zero =>
      cases Option.some.inj hv
      rw [List.set_cons_zero, checkElements, checkElements, h]
    | succ index =>
      rw [List.set_cons_succ, checkElements, checkElements, ih hv]

theorem ArrayConstraints.admits_set {constraints : ArrayConstraints} {elements : List Json}
    (free : constraints.uniqueItems = false) (index : Nat) (value : Json) :
    constraints.admits (elements.set index value) = constraints.admits elements := by
  simp [ArrayConstraints.admits, free]

/-- Checking takes no notice of a null that need not be there. -/
theorem Drops.checkValue_eq (h : table.Drops name gone node value rest) (path : List ValueStep) :
    checkValue table node path value = checkValue table node path rest := by
  induction h generalizing path with
  | @here properties required members declared free hv =>
    refine checkValue_object_congr (fun other ho => ?_) fun other => ?_
    · have apart : other ≠ name := by
        rintro rfl
        exact free ho
      rw [lookup_filter_ne apart]
    · by_cases same : other = name
      · subst same
        rw [hv, lookup_filter_self]
        exact checkMember_null free
      · rw [lookup_filter_ne same]
  | @member properties required members other node value rest declared hv inner ih =>
    refine checkValue_object_congr (fun another _ => ?_) fun another => ?_
    · by_cases same : another = other
      · subst same
        rw [hv, lookup_insertMember_self]
        rfl
      · rw [lookup_insertMember_ne rest same]
    · by_cases same : another = other
      · subst same
        rw [hv, lookup_insertMember_self]
        simp only [Option.map_some, Option.getD_some]
        rw [checkMember_declared declared fun null => inner.ne_null.1 null.1,
          checkMember_declared declared fun null => inner.ne_null.2 null.1, ih]
      · rw [lookup_insertMember_ne rest same]
  | @element items additionalItems constraints elements index value rest free hv _ ih =>
    rw [checkValue_array, checkValue_array]
    dsimp only
    rw [ArrayConstraints.admits_set free, checkElements_set hv ih]
  | @reference pointer entry value rest hr _ ih =>
    cases hd : table.dereference table.size (.reference pointer) with
    | error fault => rw [checkValue.eq_def, checkValue.eq_def table, hd]
    | ok reached =>
      rw [checkValue_reference_of_ok hr hd, checkValue_reference_of_ok hr hd, ih]

end TypeTable

end CheckedTypes
