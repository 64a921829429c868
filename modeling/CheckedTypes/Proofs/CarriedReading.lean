import CheckedTypes.DocumentReader
import CheckedTypes.Proofs.ValuePart
import Mathlib

namespace CheckedTypes

theorem Reading.enter?_eq_some_iff {reading inner : Reading} :
    reading.enter? = some inner ↔ ∃ budget, reading.budget.enter? = some budget ∧
      inner = { reading with budget } := by
  unfold Reading.enter?
  rw [Option.map_eq_some_iff]
  simp only [eq_comm]

@[simp]
theorem Reading.enter?_value : Reading.value.enter? = some Reading.value :=
  rfl

/-- What is read of a value that may take one of several forms is read of its form. -/
theorem JsonSource.form_of_readAlternative {α : Type} {reading : Reading} {source : JsonSource}
    {alternative : Alternative} {form : DocumentResult α} {a : α}
    (h : source.readAlternative reading alternative form = .ok a) : form = .ok a := by
  unfold readAlternative at h
  split at h
  next => cases h
  next =>
    cases form with
    | error => cases h
    | ok => exact h

/-- What is read from a text is also read from the value that the text makes up. -/
def Carries {α : Type} (budget : DepthBudget) (read reread : JsonSource → DocumentResult α) :
    Prop :=
  ∀ source value a, source.value budget = .ok value → read source = .ok a →
    reread (.ofValue value) = .ok a

namespace Carries

variable {α β : Type} {budget : DepthBudget} {reading : Reading}
  {read reread : JsonSource → DocumentResult α} {source : JsonSource} {value : Json}

theorem map (h : Carries budget read reread) (f : α → β) {b : β}
    (hv : source.value budget = .ok value) (hr : (read source).map f = .ok b) :
    (reread (.ofValue value)).map f = .ok b := by
  obtain ⟨a, ha, rfl⟩ := exists_of_map_eq_ok hr
  rw [h source value a hv ha]
  rfl

theorem boolean : Carries budget JsonSource.readBoolean JsonSource.readBoolean := by
  intro source value b hv hr
  cases source with
  | boolean => cases hv; exact hr
  | _ => cases hr

theorem string : Carries budget JsonSource.readString JsonSource.readString := by
  intro source value s hv hr
  cases source with
  | string s =>
    cases s with
    | ok s => cases hv; exact hr
    | error => cases hr
  | _ => cases hr

/-- Numbers are the same in both: the value does not make them anything else. -/
theorem ofValue_number {n : Except JsonFault JsonNumber}
    (hv : (JsonSource.number n).value budget = .ok value) :
    .ofValue value = JsonSource.number n := by
  cases n with
  | ok n => cases hv; rfl
  | error => cases hv

theorem natural : Carries budget JsonSource.readNatural JsonSource.readNatural := by
  intro source value n hv hr
  cases source with
  | number => rw [ofValue_number hv]; exact hr
  | _ => cases hr

theorem real : Carries budget JsonSource.readReal JsonSource.readReal := by
  intro source value x hv hr
  cases source with
  | number => rw [ofValue_number hv]; exact hr
  | _ => cases hr

theorem value_eq_null_iff (hv : source.value budget = .ok value) :
    value = .null ↔ source = .null := by
  constructor
  · rintro rfl
    cases source with
    | null => rfl
    | boolean | broken => cases hv
    | number n => cases n <;> cases hv
    | string s => cases s <;> cases hv
    | list =>
      obtain ⟨_, _, -, he, -⟩ := JsonSource.value_list_eq_ok_iff.mp hv
      cases he
    | object =>
      obtain ⟨_, _, -, he, -⟩ := JsonSource.value_object_eq_ok_iff.mp hv
      cases he
  · rintro rfl
    cases hv
    rfl

theorem ofValue_ne_null (h : value ≠ .null) : JsonSource.ofValue value ≠ .null := by
  cases value with
  | null => exact absurd rfl h
  | _ => nofun

theorem optional_of_ne_null (h : source ≠ .null) :
    source.optional read = (read source).map some := by
  cases source with
  | null => exact absurd rfl h
  | _ => rfl

theorem optional (h : Carries budget read reread) :
    Carries budget (JsonSource.optional read) (JsonSource.optional reread) := by
  intro source value a hv hr
  by_cases absent : source = .null
  · have hn := (value_eq_null_iff hv).mpr absent
    rw [absent] at hr
    rw [hn]
    exact hr
  · have hn : value ≠ .null := fun hn => absent ((value_eq_null_iff hv).mp hn)
    rw [optional_of_ne_null absent] at hr
    rw [optional_of_ne_null (ofValue_ne_null hn)]
    exact h.map some hv hr

/-- The value is read back as it is. -/
theorem value_again (hv : source.value budget = .ok value) :
    (JsonSource.ofValue value).value Reading.value.budget = .ok value :=
  JsonSource.value_ofValue (JsonSource.namesApart_of_value hv)

theorem any : Carries reading.budget (·.readAny reading) (·.readAny .value) := by
  intro source value found hv hr
  dsimp only at hr ⊢
  rw [JsonSource.readAny, hv] at hr
  rw [JsonSource.readAny, value_again hv]
  exact hr

theorem elementsOf_eq_ok_iff {index : Nat} {elements : List JsonSource} {ending : ListEnding}
    {list : List α} :
    JsonSource.elementsOf read index elements ending = .ok list ↔
      (∀ stop, ending ≠ .broken stop) ∧
        List.Forall₂ (fun element a => read element = .ok a) elements list := by
  induction elements generalizing index list with
  | nil => cases ending <;> simp [JsonSource.elementsOf, eq_comm]
  | cons element rest ih =>
    rw [JsonSource.elementsOf]
    constructor
    · intro h
      split at h
      next => cases h
      next first hf =>
        obtain ⟨others, ho, rfl⟩ := exists_of_map_eq_ok h
        obtain ⟨whole, each⟩ := ih.mp ho
        exact ⟨whole, .cons hf each⟩
    · rintro ⟨whole, each⟩
      cases each with
      | cons hf each =>
        rw [hf]
        dsimp only
        rw [ih.mpr ⟨whole, each⟩]
        rfl

/-- A list is read element by element from both. -/
theorem list {read : Reading → JsonSource → DocumentResult α}
    (h : ∀ inner : Reading, Carries inner.budget (read inner) (read .value)) :
    Carries reading.budget (·.readList reading read) (·.readList .value read) := by
  intro source value a hv hr
  cases source with
  | list elements ending =>
    obtain ⟨budget, values, hb, rfl, -, each⟩ := JsonSource.value_list_eq_ok_iff.mp hv
    dsimp only at hr ⊢
    rw [JsonSource.readList, Reading.enter?_eq_some_iff.mpr ⟨budget, hb, rfl⟩] at hr
    obtain ⟨-, found⟩ := elementsOf_eq_ok_iff.mp hr
    rw [JsonSource.ofValue, JsonSource.ofElements_eq_map, JsonSource.readList, Reading.enter?_value]
    dsimp only
    refine elementsOf_eq_ok_iff.mpr ⟨fun _ => ListEnding.noConfusion, ?_⟩
    rw [List.forall₂_map_left_iff]
    clear hr hv
    induction each generalizing a with
    | nil =>
      cases found
      exact .nil
    | @cons element value _ _ hv _ ih =>
      cases found with
      | cons hf found => exact .cons (h _ element value _ hv hf) (ih _ found)
  | _ => cases hr

theorem strings : Carries reading.budget (·.readStrings reading) (·.readStrings .value) :=
  list fun _ => string

/-- What is read as a whole first is a value that can be read. -/
theorem alternative {alternative : Alternative}
    (h : Carries reading.budget read reread) :
    Carries reading.budget (fun source => source.readAlternative reading alternative (read source))
      (fun source => source.readAlternative .value alternative (reread source)) := by
  intro source value a hv hr
  dsimp only at hr ⊢
  have form := JsonSource.form_of_readAlternative hr
  rw [JsonSource.readAlternative, value_again hv, h source value a hv form]
  rfl

theorem typeNames : Carries reading.budget (·.readTypeNames reading) (·.readTypeNames .value) := by
  refine alternative fun source value names hv hr => ?_
  cases source with
  | string s =>
    cases s with
    | ok name => cases hv; exact hr
    | error => cases hr
  | list elements ending =>
    obtain ⟨budget, values, -, rfl, -⟩ := JsonSource.value_list_eq_ok_iff.mp hv
    exact strings.map TypeNames.many hv hr
  | _ => cases hr

theorem exclusive : Carries reading.budget (·.readExclusive reading) (·.readExclusive .value) := by
  refine alternative fun source value mark hv hr => ?_
  cases source with
  | boolean => cases hv; exact hr
  | number => rw [ofValue_number hv]; exact hr
  | _ => cases hr

end Carries

end CheckedTypes
