import CheckedTypes.Proofs.DroppedMember
import CheckedTypes.Proofs.ValuePart

namespace CheckedTypes

theorem lookup_of_perm {α : Type} {members others : List (String × α)} (h : members.Perm others)
    (nodup : (members.map Prod.fst).Nodup) (name : String) :
    others.lookup name = members.lookup name := by
  have nodup' : (others.map Prod.fst).Nodup := (h.map Prod.fst).nodup_iff.mp nodup
  cases hm : members.lookup name with
  | some value => exact lookup_of_nodup nodup' (h.subset (mem_of_lookup hm))
  | none =>
    rw [List.lookup_eq_none_iff] at hm ⊢
    intro member ho
    exact hm member (h.symm.subset ho)

/-- Where one value is put in place of another, whoever cannot tell these two apart finds the
same. -/
theorem map_lookup_replace {α β : Type} {f : α → β} {a b : α} (same : f b = f a)
    (before after : List (String × α)) (name other : String) :
    ((before ++ (name, b) :: after).lookup other).map f =
      ((before ++ (name, a) :: after).lookup other).map f := by
  induction before with
  | nil =>
    rw [List.nil_append, List.nil_append, List.lookup_cons, List.lookup_cons]
    split
    next => exact congrArg some same
    next => rfl
  | cons member rest ih =>
    obtain ⟨first, c⟩ := member
    rw [List.cons_append, List.cons_append, List.lookup_cons, List.lookup_cons]
    split
    next => rfl
    next => exact ih

namespace Json

/-- One change of the order in which an object lists its members, at any depth. -/
inductive Reorders : Json → Json → Prop
  | members {members others} : members.Perm others → Reorders (.object members) (.object others)
  | inMember {inner changed name before after} : Reorders inner changed →
      Reorders (.object (before ++ (name, inner) :: after))
        (.object (before ++ (name, changed) :: after))
  | inElement {inner changed before after} : Reorders inner changed →
      Reorders (.list (before ++ inner :: after)) (.list (before ++ changed :: after))

theorem Reorders.namesApart {value twin : Json} (h : value.Reorders twin)
    (apart : value.NamesApart) : twin.NamesApart := by
  induction h with
  | members perm =>
    rw [namesApart_object] at apart ⊢
    obtain ⟨nodup, inside⟩ := apart
    exact ⟨(perm.map Prod.fst).nodup_iff.mp nodup, fun name value hm =>
      inside name value (perm.symm.subset hm)⟩
  | @inMember inner changed name before after _ ih =>
    rw [namesApart_object] at apart ⊢
    obtain ⟨nodup, inside⟩ := apart
    refine ⟨by simpa using nodup, fun other value hm => ?_⟩
    rcases List.mem_append.mp hm with hm | hm
    · exact inside other value (List.mem_append_left _ hm)
    · rcases List.mem_cons.mp hm with he | hm
      · obtain ⟨rfl, rfl⟩ := Prod.mk.inj he
        exact ih (inside other inner (by simp))
      · exact inside other value (List.mem_append_right _ (List.mem_cons_of_mem _ hm))
  | @inElement inner changed before after _ ih =>
    rw [namesApart_list] at apart ⊢
    intro element hm
    rcases List.mem_append.mp hm with hm | hm
    · exact apart element (List.mem_append_left _ hm)
    · rcases List.mem_cons.mp hm with rfl | hm
      · exact ih (apart inner (by simp))
      · exact apart element (List.mem_append_right _ (List.mem_cons_of_mem _ hm))

theorem Reorders.ne_null {value twin : Json} (h : value.Reorders twin) :
    value ≠ .null ∧ twin ≠ .null := by
  cases h <;> exact ⟨nofun, nofun⟩

/-! Equality of values sees no order of members. -/

/-- Whatever they are compared with, the values are equal to the same. -/
def Interchange (value twin : Json) : Prop :=
  ∀ other, twin.same other = value.same other ∧ other.same twin = other.same value

theorem Interchange.refl (value : Json) : value.Interchange value :=
  fun _ => ⟨rfl, rfl⟩

theorem sameMembers_eq_all (members others : List (String × Json)) :
    sameMembers members others =
      members.all fun member => ((others.lookup member.1).map member.2.same).getD false := by
  induction members with
  | nil => rfl
  | cons member rest ih =>
    obtain ⟨name, value⟩ := member
    rw [sameMembers, List.all_cons, ih]
    cases others.lookup name <;> rfl

theorem all_eq_of_perm {α : Type} {list others : List α} (h : list.Perm others) (p : α → Bool) :
    others.all p = list.all p := by
  rw [Bool.eq_iff_iff, List.all_eq_true, List.all_eq_true]
  exact ⟨fun ho a ha => ho a (h.subset ha), fun hl a ha => hl a (h.symm.subset ha)⟩

theorem interchange_members {members others : List (String × Json)} (h : members.Perm others)
    (nodup : (members.map Prod.fst).Nodup) :
    (object members).Interchange (object others) := by
  intro other
  cases other with
  | object more =>
    constructor
    · rw [same, same, h.length_eq, sameMembers_eq_all, sameMembers_eq_all, all_eq_of_perm h]
    · rw [same, same, h.length_eq, sameMembers_eq_all, sameMembers_eq_all]
      simp only [lookup_of_perm h nodup]
  | _ => exact ⟨rfl, rfl⟩

theorem interchange_member {inner changed : Json} (h : inner.Interchange changed) (name : String)
    (before after : List (String × Json)) :
    (object (before ++ (name, inner) :: after)).Interchange
      (object (before ++ (name, changed) :: after)) := by
  have count : (before ++ (name, changed) :: after).length =
      (before ++ (name, inner) :: after).length := by simp
  intro other
  cases other with
  | object more =>
    constructor
    · have sameAs : changed.same = inner.same := funext fun other => (h other).1
      rw [same, same, count, sameMembers_eq_all, sameMembers_eq_all, List.all_append,
        List.all_append, List.all_cons, List.all_cons, sameAs]
    · rw [same, same, count, sameMembers_eq_all, sameMembers_eq_all]
      simp only [map_lookup_replace (h _).2]
  | _ => exact ⟨rfl, rfl⟩

theorem sameElements_congr {elements twins others : List Json}
    (h : List.Forall₂ Interchange elements twins) :
    sameElements twins others = sameElements elements others ∧
      sameElements others twins = sameElements others elements := by
  induction h generalizing others with
  | nil => exact ⟨rfl, rfl⟩
  | cons first _ ih =>
    cases others with
    | nil => exact ⟨rfl, rfl⟩
    | cons other rest =>
      obtain ⟨left, right⟩ := @ih rest
      rw [sameElements, sameElements, sameElements, sameElements, (first other).1, (first other).2,
        left, right]
      exact ⟨rfl, rfl⟩

theorem forall₂_replace {inner changed : Json} (h : inner.Interchange changed)
    (before after : List Json) :
    List.Forall₂ Interchange (before ++ inner :: after) (before ++ changed :: after) :=
  List.rel_append (List.forall₂_same.mpr fun _ _ => .refl _)
    (.cons h (List.forall₂_same.mpr fun _ _ => .refl _))

theorem interchange_elements {elements twins : List Json}
    (h : List.Forall₂ Interchange elements twins) :
    (list elements).Interchange (list twins) := by
  intro other
  cases other with
  | list others =>
    rw [same, same, same, same]
    exact sameElements_congr h
  | _ => exact ⟨rfl, rfl⟩

theorem Reorders.interchange {value twin : Json} (h : value.Reorders twin)
    (apart : value.NamesApart) : value.Interchange twin := by
  induction h with
  | members perm => exact interchange_members perm (namesApart_object.mp apart).1
  | @inMember inner changed name before after _ ih =>
    have inside := (namesApart_object.mp apart).2 name inner (by simp)
    exact interchange_member (ih inside) name before after
  | @inElement inner changed before after _ ih =>
    have inside := namesApart_list.mp apart inner (by simp)
    exact interchange_elements (forall₂_replace (ih inside) before after)

end Json

theorem any_same_congr {earlier before : List Json} {value twin : Json}
    (h : List.Forall₂ Json.Interchange earlier before) (here : value.Interchange twin) :
    before.any twin.same = earlier.any value.same := by
  induction h with
  | nil => rfl
  | @cons other changed _ _ first _ ih =>
    have step : twin.same changed = value.same other := by
      rw [(here changed).1, (first value).2]
    rw [List.any_cons, List.any_cons, step, ih]

theorem allDistinct_congr {earlier before elements twins : List Json}
    (past : List.Forall₂ Json.Interchange earlier before)
    (h : List.Forall₂ Json.Interchange elements twins) :
    allDistinct before twins = allDistinct earlier elements := by
  induction h generalizing earlier before with
  | nil => rfl
  | cons first _ ih =>
    rw [allDistinct, allDistinct, any_same_congr past first,
      ih (List.rel_append past (.cons first .nil))]

theorem ArrayConstraints.admits_congr {elements twins : List Json}
    (h : List.Forall₂ Json.Interchange elements twins) (constraints : ArrayConstraints) :
    constraints.admits twins = constraints.admits elements := by
  rw [admits, admits, h.length_eq, allDistinct_congr .nil h]

namespace TypeTable

variable {table : TypeTable}

/-- No type but those of arrays and objects sees any difference. -/
theorem checkValue_of_reorders {value twin : Json} (h : value.Reorders twin)
    (arrays : ∀ items additionalItems constraints path,
      checkValue table (.array (some items) additionalItems constraints) path twin =
        checkValue table (.array (some items) additionalItems constraints) path value)
    (objects : ∀ properties required path,
      checkValue table (.object properties required) path twin =
        checkValue table (.object properties required) path value)
    (node : TypeNode) (path : List ValueStep) :
    checkValue table node path twin = checkValue table node path value := by
  cases hd : table.dereference table.size node with
  | error fault => rw [checkValue.eq_def, checkValue.eq_def table node, hd]
  | ok reached =>
    obtain ⟨target, restarts⟩ := reached
    have stop := (endsAt_of_dereference hd).1.isReference
    rw [checkValue_dereference hd, checkValue_dereference hd]
    generalize (if restarts then [] else path) = path
    cases target with
    | null => rw [checkValue_null, checkValue_null]; cases h <;> rfl
    | boolean => rw [checkValue_boolean, checkValue_boolean]; cases h <;> rfl
    | integer constraints => rw [checkValue_integer, checkValue_integer]; cases h <;> rfl
    | number constraints => rw [checkValue_number, checkValue_number]; cases h <;> rfl
    | string constraints => rw [checkValue_string, checkValue_string]; cases h <;> rfl
    | array items additionalItems constraints =>
      cases items with
      | none => rw [checkValue_bareArray, checkValue_bareArray]
      | some items => exact arrays items additionalItems constraints path
    | object properties required => exact objects properties required path
    | enumeration values => rw [checkValue_enumeration, checkValue_enumeration]; cases h <;> rfl
    | reference pointer => cases stop

theorem checkMember_congr {value twin : Json} (present : value ≠ .null ∧ twin ≠ .null)
    (h : ∀ node path, checkValue table node path twin = checkValue table node path value)
    (properties : List (String × TypeNode)) (required : Option (List String))
    (path : List ValueStep) (name : String) :
    table.checkMember properties required path name twin =
      table.checkMember properties required path name value := by
  cases hn : properties.lookup name with
  | none => rw [checkMember_undeclared hn, checkMember_undeclared hn]
  | some node =>
    rw [checkMember_declared hn fun null => present.2 null.1,
      checkMember_declared hn fun null => present.1 null.1, h]

/-- A value is checked with the same result if its members come in another order. -/
theorem checkValue_reordered {value twin : Json} (h : value.Reorders twin)
    (apart : value.NamesApart) (node : TypeNode) (path : List ValueStep) :
    checkValue table node path twin = checkValue table node path value := by
  induction h generalizing node path with
  | members perm =>
    have found := lookup_of_perm perm (Json.namesApart_object.mp apart).1
    refine checkValue_of_reorders (.members perm) (fun _ _ _ _ => ?_) (fun _ _ _ => ?_) node path
    · rw [checkValue_array, checkValue_array]
    · exact checkValue_object_congr (fun name _ => by rw [found]) fun name => by rw [found]
  | @inMember inner changed name before after step ih =>
    have inside := (Json.namesApart_object.mp apart).2 name inner (by simp)
    refine checkValue_of_reorders (.inMember step) (fun _ _ _ _ => ?_)
      (fun properties required path => ?_) node path
    · rw [checkValue_array, checkValue_array]
    refine checkValue_object_congr (fun other _ => ?_) fun other => ?_
    · have found := map_lookup_replace (f := fun _ => ()) (a := inner) (b := changed) rfl before
        after name other
      rw [← Option.isNone_map (f := fun _ => ()), found, Option.isNone_map]
    · rw [map_lookup_replace (checkMember_congr step.ne_null (ih inside) properties required path
        other)]
  | @inElement inner changed before after step ih =>
    have inside := Json.namesApart_list.mp apart inner (by simp)
    have replaced : before ++ changed :: after =
        (before ++ inner :: after).set before.length changed := by simp
    have alike := Json.forall₂_replace (step.interchange inside) before after
    refine checkValue_of_reorders (.inElement step)
      (fun items additionalItems constraints path => ?_) (fun _ _ _ => ?_) node path
    · rw [checkValue_array, checkValue_array]
      dsimp only
      rw [ArrayConstraints.admits_congr alike, replaced,
        ← checkElements_set (by simp) fun path => (ih inside items path).symm]
    · rw [checkValue_object, checkValue_object]

end TypeTable

end CheckedTypes
