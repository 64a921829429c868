import CheckedTypes.Proofs.CheckedValidity
import CheckedTypes.Proofs.WellFormedSchema
import Mathlib

namespace CheckedTypes

theorem NumericConstraints.admits_of_isEmpty {constraints : NumericConstraints}
    (h : constraints.isEmpty = true) (x : Binary64) : constraints.admits x = true := by
  simp only [isEmpty, Bool.and_eq_true, Option.isNone_iff_eq_none] at h
  obtain ⟨⟨least, most⟩, divisor⟩ := h
  simp [admits, least, most, divisor]

theorem StringConstraints.admitsLength_of_hasLength {constraints : StringConstraints}
    (h : constraints.hasLength = false) (text : String) :
    constraints.admitsLength text = true := by
  simp only [hasLength, Bool.or_eq_false_iff, Option.isSome_eq_false_iff,
    Option.isNone_iff_eq_none] at h
  simp [admitsLength, h.1, h.2]

theorem ArrayConstraints.admits_of_isEmpty {constraints : ArrayConstraints}
    (h : constraints.isEmpty = true) (elements : List Json) :
    constraints.admits elements = true := by
  simp only [isEmpty, Bool.and_eq_true, Option.isNone_iff_eq_none, Bool.not_eq_true'] at h
  obtain ⟨⟨least, most⟩, distinct⟩ := h
  simp [admits, least, most, distinct]

theorem demand_eq_error_iff {condition : Bool} {reason : Reason} {path : List ValueStep}
    {fault : CheckError} :
    demand condition reason path = .error fault ↔
      condition = false ∧ fault = .violation reason path := by
  cases condition <;> simp [demand, eq_comm]

namespace TypeNode

theorem Within.trans {part middle node : TypeNode} (h : part.Within middle)
    (h' : middle.Within node) : part.Within node := by
  induction h' with
  | here => exact h
  | items _ ih => exact .items ih
  | property hm _ ih => exact .property hm ih

/-- What the values of a type are called. -/
def kind? : TypeNode → Option String
  | .null => some "null"
  | .boolean => some "boolean"
  | .integer _ => some "integer"
  | .number _ => some "number"
  | .string _ => some "string"
  | .array _ _ _ => some "array"
  | .object _ _ => some "object"
  | .enumeration _ | .reference _ => none

/-- How a value can violate the constraints of a type. -/
def constraintReasons : TypeNode → List Reason
  | .integer _ => [.integer]
  | .number _ => [.number]
  | .string _ => [.stringLength, .stringPattern]
  | .array _ _ _ => [.array]
  | .object _ _ => [.memberRequired]
  | _ => []

/-- What can be wrong with a value, or with the type, as far as the type looks itself. -/
inductive Raises : TypeNode → CheckError → Prop
  | kind {node kind path} : node.kind? = some kind → Raises node (.violation (.expected kind) path)
  | absent {items additionalItems constraints path} :
      Raises (.array items additionalItems constraints) (.violation .arrayPresent path)
  | constraint {node reason path} : node.HasConstraint → reason ∈ node.constraintReasons →
      Raises node (.violation reason path)
  | enumeration {values path} : Raises (.enumeration values) (.violation .enumeration path)
  | bareArray {additionalItems constraints path} :
      Raises (.array none additionalItems constraints)
        (.schema (.schemaShape (valuePathText path) "array must have item type"))
  | pattern {constraints pattern path} : constraints.pattern = some pattern →
      Regex.ofText? pattern = none →
      Raises (.string constraints) (.schema (.schemaShape (valuePathText path) "invalid pattern"))

end TypeNode

section

variable {path : List ValueStep} {value : Json} {fault : CheckError}

theorem raises_of_checkInteger {constraints : NumericConstraints}
    (h : checkInteger constraints path value = .error fault) :
    (TypeNode.integer constraints).Raises fault := by
  unfold checkInteger at h
  split at h
  next =>
    cases Except.error.inj h
    exact .kind rfl
  next x _ =>
    obtain ⟨refused, rfl⟩ := demand_eq_error_iff.mp h
    refine .constraint (TypeNode.integer_hasConstraint.mpr ?_)
      (by simp [TypeNode.constraintReasons])
    by_contra empty
    simp [NumericConstraints.admits_of_isEmpty (by simpa using empty) x] at refused

theorem raises_of_checkNumber {constraints : NumericConstraints}
    (h : checkNumber constraints path value = .error fault) :
    (TypeNode.number constraints).Raises fault := by
  unfold checkNumber at h
  split at h
  next =>
    cases Except.error.inj h
    exact .kind rfl
  next x _ =>
    obtain ⟨refused, rfl⟩ := demand_eq_error_iff.mp h
    refine .constraint (TypeNode.number_hasConstraint.mpr ?_) (by simp [TypeNode.constraintReasons])
    by_contra empty
    simp [NumericConstraints.admits_of_isEmpty (by simpa using empty) x] at refused

theorem raises_of_checkPattern {constraints : StringConstraints} {text : String}
    (h : checkPattern constraints.pattern path text = .error fault) :
    (TypeNode.string constraints).Raises fault := by
  unfold checkPattern at h
  split at h
  next => cases h
  next pattern hp =>
    split at h
    next meaningless =>
      cases Except.error.inj h
      exact .pattern hp meaningless
    next =>
      obtain ⟨-, rfl⟩ := demand_eq_error_iff.mp h
      exact .constraint (.inr (.inr (by simp [hp]))) (by simp [TypeNode.constraintReasons])

theorem raises_of_checkString {constraints : StringConstraints}
    (h : checkString constraints path value = .error fault) :
    (TypeNode.string constraints).Raises fault := by
  cases value with
  | string text =>
    rw [checkString_text] at h
    split at h
    next refusal hd =>
      cases Except.error.inj h
      obtain ⟨refused, rfl⟩ := demand_eq_error_iff.mp hd
      refine .constraint (TypeNode.string_hasConstraint.mpr ?_)
        (by simp [TypeNode.constraintReasons])
      have long : constraints.hasLength = true := by
        by_contra free
        simp [StringConstraints.admitsLength_of_hasLength (by simpa using free) text] at refused
      simp [StringConstraints.isEmpty, long]
    next => exact raises_of_checkPattern h
  | _ =>
    cases Except.error.inj h
    exact .kind rfl

/-- What fails an array fails one of its elements. -/
theorem exists_of_checkElements {table : TypeTable} {items : TypeNode} {position : Nat}
    {elements : List Json} (h : checkElements table items path position elements = .error fault) :
    ∃ element ∈ elements, ∃ path, checkValue table items path element = .error fault := by
  induction elements generalizing position with
  | nil => simp [checkElements] at h
  | cons first rest ih =>
    rw [checkElements] at h
    split at h
    next other hf =>
      cases Except.error.inj h
      exact ⟨first, List.mem_cons_self, _, hf⟩
    next =>
      obtain ⟨element, hm, he⟩ := ih h
      exact ⟨element, List.mem_cons_of_mem _ hm, he⟩

theorem exists_of_firstFailure {results : List (String × CheckResult)}
    {properties : List (String × TypeNode)} (h : firstFailure results properties = .error fault) :
    ∃ name, results.lookup name = some (.error fault) := by
  induction properties with
  | nil => simp [firstFailure] at h
  | cons property rest ih =>
    obtain ⟨name, node⟩ := property
    rw [firstFailure] at h
    split at h
    next other hf =>
      cases Except.error.inj h
      exact ⟨name, hf⟩
    next => exact ih h

end

namespace TypeTable

variable {table : TypeTable} {path : List ValueStep} {value : Json} {fault : CheckError}

/-- What fails an object fails one of its declared members. -/
theorem exists_of_checkMembers {properties others : List (String × TypeNode)}
    {required : Option (List String)} {members : List (String × Json)}
    (h : firstFailure (checkMembers table properties required path members) others =
      .error fault) :
    ∃ name node value, (name, node) ∈ properties ∧ members.lookup name = some value ∧
      ∃ path, checkValue table node path value = .error fault := by
  obtain ⟨name, hf⟩ := exists_of_firstFailure h
  rw [lookup_checkMembers] at hf
  obtain ⟨value, hv, hf⟩ := Option.map_eq_some_iff.mp hf
  cases hn : properties.lookup name with
  | none => simp [checkMember_undeclared hn] at hf
  | some node =>
    by_cases hnull : value = .null ∧ name ∉ required.getD []
    · simp [hnull.1, checkMember_null hnull.2] at hf
    · rw [checkMember_declared hn hnull] at hf
      obtain ⟨_, _, he, -⟩ := List.lookup_eq_some_iff.mp hn
      exact ⟨name, node, value, by simp [he], hv, _, hf⟩

theorem raises_of_checkArray {items : TypeNode} {additionalItems : Bool}
    {constraints : ArrayConstraints}
    (h : checkValue table (.array (some items) additionalItems constraints) path value =
      .error fault) :
    (TypeNode.array (some items) additionalItems constraints).Raises fault ∨
      ∃ elements, value = .list elements ∧ ∃ element ∈ elements, ∃ path,
        checkValue table items path element = .error fault := by
  rw [checkValue_array] at h
  split at h
  next elements =>
    split at h
    next refusal hd =>
      cases Except.error.inj h
      obtain ⟨refused, rfl⟩ := demand_eq_error_iff.mp hd
      refine .inl (.constraint (TypeNode.array_hasConstraint.mpr ?_)
        (by simp [TypeNode.constraintReasons]))
      by_contra empty
      simp [ArrayConstraints.admits_of_isEmpty (by simpa using empty) elements] at refused
    next => exact .inr ⟨elements, rfl, exists_of_checkElements h⟩
  next =>
    cases Except.error.inj h
    exact .inl .absent
  next =>
    cases Except.error.inj h
    exact .inl (.kind rfl)

theorem raises_of_checkObject {properties : List (String × TypeNode)}
    {required : Option (List String)}
    (h : checkValue table (.object properties required) path value = .error fault) :
    (TypeNode.object properties required).Raises fault ∨
      ∃ members, value = .object members ∧ ∃ name node value, (name, node) ∈ properties ∧
        members.lookup name = some value ∧
          ∃ path, checkValue table node path value = .error fault := by
  rw [checkValue_object] at h
  split at h
  next members =>
    split at h
    next name hm =>
      cases Except.error.inj h
      have required := List.mem_of_find?_eq_some hm
      rw [(TypeNode.requiredNames_perm (sortByName_perm properties)).mem_iff] at required
      exact .inl (.constraint
        (TypeNode.object_hasConstraint.mpr (List.isEmpty_eq_false_iff_exists_mem.mpr ⟨_, required⟩))
        (by simp [TypeNode.constraintReasons]))
    next => exact .inr ⟨members, rfl, exists_of_checkMembers h⟩
  next =>
    cases Except.error.inj h
    exact .inl (.kind rfl)

/-- The type is a part of one that references lead to from the named type. -/
def Involves (table : TypeTable) (entry : TypeEntry) (part : TypeNode) : Prop :=
  ∃ other, Relation.ReflTransGen table.Refers entry other ∧ part.Within other.node

variable {entry : TypeEntry}

theorem Involves.self (table : TypeTable) (entry : TypeEntry) : table.Involves entry entry.node :=
  ⟨entry, .refl, .here⟩

theorem Involves.within {part node : TypeNode} (h : table.Involves entry node)
    (hw : part.Within node) : table.Involves entry part := by
  obtain ⟨other, chain, inside⟩ := h
  exact ⟨other, chain, hw.trans inside⟩

theorem Involves.reference {pointer : String} {other : TypeEntry}
    (h : table.Involves entry (.reference pointer)) (hr : table.resolve pointer = .ok other) :
    table.Involves entry other.node := by
  obtain ⟨last, chain, inside⟩ := h
  exact ⟨other, chain.tail ⟨pointer, inside, hr⟩, .here⟩

theorem Involves.endsAt {node target : TypeNode} (h : table.Involves entry node)
    (ends : table.EndsAt node target) : table.Involves entry target := by
  induction ends with
  | here => exact h
  | there hr _ ih => exact ih (h.reference hr)

theorem Refers.mem {other : TypeEntry} (h : Relation.ReflTransGen table.Refers entry other)
    (hm : entry ∈ table.entries) : other ∈ table.entries := by
  induction h with
  | refl => exact hm
  | tail _ step =>
    obtain ⟨pointer, -, hr⟩ := step
    exact resolve_mem hr

/-- Whatever is wrong with a value is raised by one of the types that the check looks at, or one of
them leads nowhere. -/
theorem exists_cause {node : TypeNode} (involved : table.Involves entry node)
    {path : List ValueStep} {value : Json} (h : checkValue table node path value = .error fault) :
    ∃ part, table.Involves entry part ∧
      (part.Raises fault ∨ table.dereference table.size part = .error fault) := by
  cases hd : table.dereference table.size node with
  | error other =>
    rw [checkValue.eq_def, hd] at h
    cases h
    exact ⟨node, involved, .inr hd⟩
  | ok found =>
    obtain ⟨target, restarts⟩ := found
    have ends := (endsAt_of_dereference hd).1
    rw [checkValue_dereference hd] at h
    generalize (if restarts then [] else path) = path at h
    have involved := involved.endsAt ends
    have stop := ends.isReference
    cases target with
    | null =>
      rw [checkValue_null, demand_eq_error_iff] at h
      exact ⟨_, involved, .inl (h.2 ▸ .kind rfl)⟩
    | boolean =>
      rw [checkValue_boolean, demand_eq_error_iff] at h
      exact ⟨_, involved, .inl (h.2 ▸ .kind rfl)⟩
    | integer constraints =>
      rw [checkValue_integer] at h
      exact ⟨_, involved, .inl (raises_of_checkInteger h)⟩
    | number constraints =>
      rw [checkValue_number] at h
      exact ⟨_, involved, .inl (raises_of_checkNumber h)⟩
    | string constraints =>
      rw [checkValue_string] at h
      exact ⟨_, involved, .inl (raises_of_checkString h)⟩
    | array items additionalItems constraints =>
      cases items with
      | none =>
        rw [checkValue_bareArray] at h
        cases Except.error.inj h
        exact ⟨_, involved, .inl .bareArray⟩
      | some items =>
        rcases raises_of_checkArray h with own | ⟨elements, rfl, element, hm, path, h⟩
        · exact ⟨_, involved, .inl own⟩
        · have smaller := List.sizeOf_lt_of_mem hm
          exact exists_cause (involved.within (.items .here)) h
    | object properties required =>
      rcases raises_of_checkObject h with own | ⟨members, rfl, name, node, value, hn, hv, path, h⟩
      · exact ⟨_, involved, .inl own⟩
      · have smaller := sizeOf_lt_of_lookup hv
        exact exists_cause (involved.within (.property hn .here)) h
    | enumeration values =>
      rw [checkValue_enumeration, demand_eq_error_iff] at h
      exact ⟨_, involved, .inl (h.2 ▸ .enumeration)⟩
    | reference pointer => simp [TypeNode.isReference] at stop
termination_by sizeOf value
decreasing_by
  · subst_vars
    simp
    omega
  · subst_vars
    simp
    omega

/-- Where all types that the check looks at end somewhere, one of them raises what is wrong. -/
theorem exists_raises (acyclic : table.ReferencesEnd)
    (lead : ∀ part, table.Involves entry part → ∃ target, table.EndsAt part target)
    {node : TypeNode} (involved : table.Involves entry node) {path : List ValueStep} {value : Json}
    (h : checkValue table node path value = .error fault) :
    ∃ part, table.Involves entry part ∧ part.Raises fault := by
  obtain ⟨part, inside, raised | nowhere⟩ := exists_cause involved h
  · exact ⟨part, inside, raised⟩
  · obtain ⟨target, ends⟩ := lead part inside
    cases nowhere.symm.trans ((dereference_eq_ok_iff acyclic).mpr ⟨ends, rfl⟩)

/-- There are finitely many types, so a chain of references that never comes back ends. -/
theorem ReferencesEnd.exists_endsAt (acyclic : table.ReferencesEnd)
    (lead : ∀ entry ∈ table.entries, ∀ pointer, entry.node = .reference pointer →
      ∃ other, table.resolve pointer = .ok other)
    (hm : entry ∈ table.entries) : ∃ target, table.EndsAt entry.node target := by
  refine acyclic.induction (motive := fun entry => ∃ target, table.EndsAt entry.node target)
    (fun entry hm ih => ?_) hm
  cases hn : entry.node with
  | reference pointer =>
    obtain ⟨other, hr⟩ := lead entry hm pointer hn
    obtain ⟨target, ends⟩ := ih other ⟨pointer, hn, hr⟩
    exact ⟨target, .there hr ends⟩
  | _ => exact ⟨_, .here rfl⟩

theorem WellFormed.exists_endsAt (h : table.WellFormed) (acyclic : table.ReferencesEnd)
    (hm : entry ∈ table.entries) {part : TypeNode} (involved : table.Involves entry part) :
    ∃ target, table.EndsAt part target := by
  have lead : ∀ entry ∈ table.entries, ∀ pointer, (TypeNode.reference pointer).Within entry.node →
      ∃ other, table.resolve pointer = .ok other := fun _ hm _ hw => h.supported hm hw rfl
  cases part with
  | reference pointer =>
    obtain ⟨other, chain, inside⟩ := involved
    obtain ⟨next, hr⟩ := lead other (Refers.mem chain hm) pointer inside
    obtain ⟨target, ends⟩ := acyclic.exists_endsAt
      (fun entry hm pointer hn => lead entry hm pointer (hn ▸ .here)) (resolve_mem hr)
    exact ⟨target, .there hr ends⟩
  | _ => exact ⟨_, .here rfl⟩

/-- Where the types are well formed, checking a named type fails as one of the types involved
says. -/
theorem WellFormed.exists_raises (h : table.WellFormed) (acyclic : table.ReferencesEnd)
    (hm : entry ∈ table.entries) {typeName : String} (known : table.lookup? typeName = some entry)
    (hf : table.check typeName value = .error fault) :
    ∃ part, table.Involves entry part ∧ part.Raises fault := by
  rw [check, known] at hf
  exact TypeTable.exists_raises acyclic (fun _ => h.exists_endsAt acyclic hm)
    (Involves.self table entry) hf

end TypeTable

end CheckedTypes
