import CheckedTypes.JsonValue
import Mathlib.Data.List.Forall2
import Mathlib.Data.List.Nodup

namespace CheckedTypes

/-- Puts values under their names, one after the other. -/
def insertMembers {α : Type} (members named : List (String × α)) : List (String × α) :=
  named.foldl (fun members member => insertMember member.1 member.2 members) members

section

variable {α β : Type} {name : String} {a : α} {members named : List (String × α)}

theorem map_fst_insertMember :
    (insertMember name a members).map Prod.fst =
      if name ∈ members.map Prod.fst then members.map Prod.fst
      else members.map Prod.fst ++ [name] := by
  induction members with
  | nil => rfl
  | cons member rest ih =>
    obtain ⟨first, b⟩ := member
    rw [insertMember]
    by_cases he : first = name
    · simp [he]
    · have apart : name ≠ first := Ne.symm he
      rw [if_neg he, List.map_cons, ih]
      by_cases hm : name ∈ rest.map Prod.fst
      · simp [hm]
      · have fresh : name ∉ (((first, b) :: rest).map Prod.fst) := by
          rw [List.map_cons, List.mem_cons]
          exact fun h => h.elim apart hm
        rw [if_neg hm, if_neg fresh]
        rfl

theorem nodup_insertMember (h : (members.map Prod.fst).Nodup) :
    ((insertMember name a members).map Prod.fst).Nodup := by
  rw [map_fst_insertMember]
  split
  next => exact h
  next fresh =>
    rw [List.nodup_append]
    refine ⟨h, List.nodup_singleton name, fun other ho last hl => ?_⟩
    rintro rfl
    rw [List.mem_singleton.mp hl] at ho
    exact fresh ho

theorem nodup_insertMembers (h : (members.map Prod.fst).Nodup) :
    ((insertMembers members named).map Prod.fst).Nodup := by
  induction named generalizing members with
  | nil => exact h
  | cons member rest ih => exact ih (nodup_insertMember h)

theorem insertMember_of_not_mem (h : name ∉ members.map Prod.fst) :
    insertMember name a members = members ++ [(name, a)] := by
  induction members with
  | nil => rfl
  | cons member rest ih =>
    obtain ⟨first, b⟩ := member
    rw [List.map_cons, List.mem_cons, not_or] at h
    rw [insertMember, if_neg (Ne.symm h.1), ih h.2]
    rfl

/-- Names that are all new are put behind the others. -/
theorem insertMembers_of_nodup (h : ((members ++ named).map Prod.fst).Nodup) :
    insertMembers members named = members ++ named := by
  induction named generalizing members with
  | nil => exact (List.append_nil members).symm
  | cons member rest ih =>
    obtain ⟨first, b⟩ := member
    have fresh : first ∉ members.map Prod.fst := by
      rw [List.map_append, List.map_cons] at h
      exact fun hm => (List.nodup_append.mp h).2.2 first hm first (by simp) rfl
    have step : insertMembers members ((first, b) :: rest) =
        insertMembers (members ++ [(first, b)]) rest := by
      rw [insertMembers, List.foldl_cons, insertMember_of_not_mem fresh]
      rfl
    rw [step, ih (by simpa using h), List.append_assoc]
    rfl

theorem forall₂_insertMember {R : α → β → Prop} {others : List (String × β)} {b : β}
    (h : List.Forall₂ (fun member other => other.1 = member.1 ∧ R member.2 other.2) members others)
    (same : R a b) :
    List.Forall₂ (fun member other => other.1 = member.1 ∧ R member.2 other.2)
      (insertMember name a members) (insertMember name b others) := by
  induction h with
  | nil => exact .cons ⟨rfl, same⟩ .nil
  | @cons member other rest more first behind ih =>
    obtain ⟨label, c⟩ := member
    obtain ⟨_, d⟩ := other
    obtain ⟨rfl, here⟩ := first
    rw [insertMember, insertMember]
    split
    next => exact .cons ⟨rfl, same⟩ behind
    next => exact .cons ⟨rfl, here⟩ ih

theorem forall₂_insertMembers {R : α → β → Prop} {others more : List (String × β)}
    (h : List.Forall₂ (fun member other => other.1 = member.1 ∧ R member.2 other.2) members others)
    (h' : List.Forall₂ (fun member other => other.1 = member.1 ∧ R member.2 other.2) named more) :
    List.Forall₂ (fun member other => other.1 = member.1 ∧ R member.2 other.2)
      (insertMembers members named) (insertMembers others more) := by
  induction h' generalizing members others with
  | nil => exact h
  | @cons member other rest more first _ ih =>
    obtain ⟨label, c⟩ := member
    obtain ⟨_, d⟩ := other
    obtain ⟨rfl, here⟩ := first
    exact ih (forall₂_insertMember h here)

theorem filter_insertMember (p : String → Bool) :
    (insertMember name a members).filter (fun member => p member.1) =
      if p name then insertMember name a (members.filter fun member => p member.1)
      else members.filter fun member => p member.1 := by
  induction members with
  | nil => cases hp : p name <;> simp [insertMember, hp]
  | cons member rest ih =>
    obtain ⟨first, b⟩ := member
    rw [insertMember]
    by_cases he : first = name
    · subst he
      cases hp : p first <;> simp [insertMember, hp]
    · rw [if_neg he, List.filter_cons, ih]
      cases hf : p first <;> cases hp : p name <;> simp [insertMember, hf, he]

/-- Of the names in question, the others take and give nothing. -/
theorem filter_insertMembers (p : String → Bool) :
    (insertMembers members named).filter (fun member => p member.1) =
      insertMembers (members.filter fun member => p member.1)
        (named.filter fun member => p member.1) := by
  induction named generalizing members with
  | nil => rfl
  | cons member rest ih =>
    obtain ⟨first, b⟩ := member
    have step := @ih (insertMember first b members)
    rw [filter_insertMember] at step
    rw [List.filter_cons]
    cases hp : p first with
    | true => simpa [insertMembers, hp] using step
    | false => simpa [insertMembers, hp] using step

theorem mem_insertMember {member : String × α} (h : member ∈ insertMember name a members) :
    member = (name, a) ∨ member ∈ members := by
  induction members with
  | nil => exact .inl (List.mem_singleton.mp h)
  | cons first rest ih =>
    obtain ⟨other, b⟩ := first
    rw [insertMember] at h
    split at h
    next =>
      rcases List.mem_cons.mp h with he | h
      · exact .inl he
      · exact .inr (List.mem_cons_of_mem _ h)
    next =>
      rcases List.mem_cons.mp h with he | h
      · exact .inr (he ▸ List.mem_cons_self)
      · exact (ih h).imp_right (List.mem_cons_of_mem _)

theorem mem_insertMembers {member : String × α} (h : member ∈ insertMembers members named) :
    member ∈ members ∨ member ∈ named := by
  induction named generalizing members with
  | nil => exact .inl h
  | cons first rest ih =>
    rcases ih h with h | h
    · rcases mem_insertMember h with he | h
      · exact .inr (he ▸ List.mem_cons_self)
      · exact .inl h
    · exact .inr (List.mem_cons_of_mem _ h)

end

end CheckedTypes
