import CheckedTypes.Proofs.StringifiedValue
import CheckedTypes.Proofs.SupportChecks

namespace CheckedTypes

/-- What the loop of a script over the elements answers: each is looked up by its text among those
in front of it. -/
def textsDistinct (seen : List String) : List Json → Bool
  | [] => true
  | element :: rest =>
    let key := element.stringify
    if seen.contains key then false else textsDistinct (key :: seen) rest

/-- What two nested loops answer in Go: each number is compared to those in front of it. -/
def numbersDistinct (numbers : List Binary64) : Bool :=
  (List.range numbers.length).all fun i =>
    (List.range i).all fun j => !(numbers[i]? == numbers[j]?)

/-- What comparing the elements of an array to each other answers, in Go if all are numbers. -/
def Target.distinct : Target → List Json → Bool
  | .go, elements => (elements.mapM Json.asBinary64?).any numbersDistinct
  | .typescript, elements => textsDistinct [] elements

/-- No limits of the count. -/
def ArrayConstraints.unique : ArrayConstraints where
  uniqueItems := true

/-- What the function for arrays answers that is asked for nothing but distinct elements. -/
def Target.uniqueAnswer? (target : Target) (elements : List Json) : Option Bool :=
  (SupportFunction.array target).answer? target.distinct ArrayConstraints.unique.arguments
    (some (.list elements))

/-- Without limits nothing depends on the count. -/
theorem Target.uniqueAnswer?_eq (target : Target) (elements : List Json) :
    target.uniqueAnswer? elements = some (target.distinct elements) := by
  have least : HasWord ArrayConstraints.unique.minItems := fun _ h => by cases h
  have most : HasWord ArrayConstraints.unique.maxItems := fun _ h => by cases h
  have operands := ArrayConstraints.operands least most
  rw [uniqueAnswer?, SupportFunction.answer?_of_operands target.distinct operands]
  exact SupportFunction.array_result? target.distinct target ..

/-- Two keys that tell the same elements apart repeat in the same lists. -/
theorem nodup_map_congr {α β γ : Type} {f : α → β} {g : α → γ} {list : List α}
    (h : ∀ a ∈ list, ∀ b ∈ list, f a = f b ↔ g a = g b) :
    (list.map f).Nodup ↔ (list.map g).Nodup := by
  rw [List.Nodup, List.Nodup, List.pairwise_map, List.pairwise_map]
  exact List.Pairwise.iff_of_mem fun ha hb => not_congr (h _ ha _ hb)

/-- The check of instances finds distinct what is held differently. -/
theorem ArrayConstraints.unique_admits_iff {elements : List Json}
    (apart : ∀ element ∈ elements, element.NamesApart) :
    ArrayConstraints.unique.admits elements = true ↔ (elements.map Json.held).Nodup := by
  show allDistinct [] elements = true ↔ _
  rw [allDistinct_iff, List.Nodup, List.pairwise_map]
  simp only [List.not_mem_nil, false_implies, implies_true, true_and]
  refine List.Pairwise.iff_of_mem fun ha hb => ?_
  rw [← Bool.not_eq_true, Json.same_iff_held_eq (apart _ hb) (apart _ ha), ne_comm, ne_eq]

/-- What was seen when the loop goes on are the texts in front. -/
theorem textsDistinct_iff_stringify {seen : List String} {elements : List Json} :
    textsDistinct seen elements = true ↔
      (∀ element ∈ elements, element.stringify ∉ seen) ∧ (elements.map Json.stringify).Nodup := by
  induction elements generalizing seen with
  | nil => simp [textsDistinct]
  | cons element rest ih =>
    rw [textsDistinct, List.map_cons, List.nodup_cons, List.forall_mem_cons, List.mem_map]
    split
    next repeated =>
      have inside : element.stringify ∈ seen := List.contains_iff_mem.mp repeated
      exact iff_of_false Bool.false_ne_true fun h => h.1.1 inside
    next fresh =>
      have outside : element.stringify ∉ seen := fun h => fresh (List.contains_iff_mem.mpr h)
      rw [ih]
      constructor
      · rintro ⟨later, nodup⟩
        refine ⟨⟨outside, fun other ho inside => later other ho (.tail _ inside)⟩, ?_, nodup⟩
        rintro ⟨other, ho, same⟩
        exact later other ho (same ▸ List.mem_cons_self)
      · rintro ⟨⟨_, others⟩, first, nodup⟩
        refine ⟨fun other ho inside => ?_, nodup⟩
        rcases List.mem_cons.mp inside with same | inside
        · exact first ⟨other, ho, same⟩
        · exact others other ho inside

/-- A script finds distinct what it sees as different. -/
theorem textsDistinct_iff {elements : List Json} :
    textsDistinct [] elements = true ↔ (elements.map Json.script).Nodup := by
  rw [textsDistinct_iff_stringify, nodup_map_congr fun _ _ _ _ => Json.stringify_eq_iff]
  simp

theorem numbersDistinct_iff {numbers : List Binary64} :
    numbersDistinct numbers = true ↔ (numbers.map Binary64.toInt).Nodup := by
  simp only [numbersDistinct, List.all_eq_true, List.mem_range, Bool.not_eq_true']
  rw [List.Nodup, List.pairwise_map, List.pairwise_iff_getElem]
  have compared {i j : Nat} (hi : i < numbers.length) (hj : j < numbers.length) :
      (numbers[i]? == numbers[j]?) = false ↔ numbers[j].toInt ≠ numbers[i].toInt := by
    rw [List.getElem?_eq_getElem hi, List.getElem?_eq_getElem hj, Option.some_beq_some,
      ← Bool.not_eq_true, Binary64.beq_iff, ne_comm, ne_eq]
  constructor
  · intro h j i hj hi less
    exact (compared hi hj).mp (h i hi j less)
  · intro h i hi j less
    exact (compared hi (less.trans hi)).mpr (h j i (less.trans hi) hi less)

namespace JsonNumber

/-- Two numbers are in one form, integers among those that are not rounded. -/
def Alike : JsonNumber → JsonNumber → Prop
  | integer m, integer n => m.natAbs ≤ significandEnd ∧ n.natAbs ≤ significandEnd
  | real _, real _ => True
  | _, _ => False

/-- Of numbers in one form, those of one value are the same. -/
theorem held_eq_iff_of_alike {m n : JsonNumber} (alike : m.Alike n) (hm : m.toBinary64?.isSome)
    (hn : n.toBinary64?.isSome) : m.held = n.held ↔ m.nearest.toInt = n.nearest.toInt := by
  cases m with
  | integer m =>
    cases n with
    | integer n =>
      have first := toInt_nearest_integer hm alike.1
      have second := toInt_nearest_integer hn alike.2
      have unit : (stepsPerUnit : Int) ≠ 0 := Int.natCast_ne_zero.mpr stepsPerUnit_pos.ne'
      constructor
      · intro h
        rw [integer.inj h]
      · intro h
        have scaled := first.symm.trans (h.trans second)
        exact congrArg integer (Int.eq_of_mul_eq_mul_right unit scaled)
    | real y => exact alike.elim
  | real x =>
    cases n with
    | integer n => exact alike.elim
    | real y => exact held_eq_iff.trans Binary64.beq_iff

end JsonNumber

theorem mapM_asBinary64? {numbers : List JsonNumber} (finite : ∀ n ∈ numbers, n.toBinary64?.isSome) :
    (numbers.map Json.number).mapM Json.asBinary64? = some (numbers.map JsonNumber.nearest) := by
  induction numbers with
  | nil => rfl
  | cons n rest ih =>
    obtain ⟨x, hx⟩ := Option.isSome_iff_exists.mp (finite n List.mem_cons_self)
    have first : (Json.number n).asBinary64? = some x := hx
    rw [List.map_cons, List.mapM_cons, first, ih fun m hm => finite m (List.mem_cons_of_mem _ hm),
      List.map_cons, JsonNumber.nearest_eq hx]
    rfl

namespace Target

/-- Go finds distinct what has different values. -/
theorem go_distinct_iff {numbers : List JsonNumber} (finite : ∀ n ∈ numbers, n.toBinary64?.isSome) :
    Target.go.distinct (numbers.map Json.number) = true ↔
      (numbers.map fun n => n.nearest.toInt).Nodup := by
  rw [distinct, mapM_asBinary64? finite, Option.any_some, numbersDistinct_iff, List.map_map]
  rfl

theorem typescript_distinct_iff {numbers : List JsonNumber} :
    Target.typescript.distinct (numbers.map Json.number) = true ↔
      (numbers.map fun n => n.nearest.toInt).Nodup := by
  rw [distinct, textsDistinct_iff, List.map_map]
  refine nodup_map_congr fun m _ n _ => ?_
  exact (Json.number.injEq ..).to_iff.trans JsonNumber.computed_eq_iff

end Target

/-- Where elements that stand for the same data are written alike, the check of instances and a
script find the same. -/
theorem unique_admits_eq_typescript {elements : List Json}
    (apart : ∀ element ∈ elements, element.NamesApart)
    (alike : ∀ value ∈ elements, ∀ other ∈ elements, value.data = other.data →
      value.held = other.held ∧ value.script = other.script) :
    ArrayConstraints.unique.admits elements = Target.typescript.distinct elements := by
  rw [Bool.eq_iff_iff, ArrayConstraints.unique_admits_iff apart, Target.distinct, textsDistinct_iff]
  refine nodup_map_congr fun value hv other ho => ⟨fun same => ?_, fun same => ?_⟩
  · have data := congrArg Json.data same
    rw [Json.data_held (apart value hv), Json.data_held (apart other ho)] at data
    exact (alike value hv other ho data).2
  · have data := congrArg Json.data same
    rw [Json.data_script (apart value hv), Json.data_script (apart other ho)] at data
    exact (alike value hv other ho data).1

theorem namesApart_number {numbers : List JsonNumber} :
    ∀ element ∈ numbers.map Json.number, element.NamesApart := by
  intro element hm
  obtain ⟨n, -, rfl⟩ := List.mem_map.mp hm
  rintro members ⟨⟩

theorem unique_admits_numbers_iff {numbers : List JsonNumber}
    (finite : ∀ n ∈ numbers, n.toBinary64?.isSome)
    (alike : ∀ m ∈ numbers, ∀ n ∈ numbers, m.Alike n) :
    ArrayConstraints.unique.admits (numbers.map Json.number) = true ↔
      (numbers.map fun n => n.nearest.toInt).Nodup := by
  rw [ArrayConstraints.unique_admits_iff namesApart_number, List.map_map]
  refine nodup_map_congr fun m hm n hn => ?_
  exact (Json.number.injEq ..).to_iff.trans
    (JsonNumber.held_eq_iff_of_alike (alike m hm n hn) (finite m hm) (finite n hn))

/-- The verdicts on the elements of an array that have to be distinct. The check of instances tells
the forms of a number apart but not the orders of members; a script tells the orders of members
apart but not the forms of a number. They find the same where elements that stand for the same data
are written alike. On numbers Go finds what a script finds, and so does the check of instances on
numbers of one form. -/
theorem unique_items_verdicts {elements : List Json}
    (apart : ∀ element ∈ elements, element.NamesApart) :
    (∀ target : Target, target.uniqueAnswer? elements = some (target.distinct elements)) ∧
    (ArrayConstraints.unique.admits elements = true ↔ (elements.map Json.held).Nodup) ∧
    (Target.typescript.distinct elements = true ↔ (elements.map Json.script).Nodup) ∧
    ((∀ value ∈ elements, ∀ other ∈ elements, value.data = other.data →
        value.held = other.held ∧ value.script = other.script) →
      ArrayConstraints.unique.admits elements = Target.typescript.distinct elements) ∧
    ∀ numbers : List JsonNumber, elements = numbers.map Json.number →
      (∀ n ∈ numbers, n.toBinary64?.isSome) →
      (Target.go.distinct elements = true ↔ (numbers.map fun n => n.nearest.toInt).Nodup) ∧
      Target.typescript.distinct elements = Target.go.distinct elements ∧
      ((∀ m ∈ numbers, ∀ n ∈ numbers, m.Alike n) →
        ArrayConstraints.unique.admits elements = Target.go.distinct elements) := by
  refine ⟨fun target => target.uniqueAnswer?_eq elements, ArrayConstraints.unique_admits_iff apart,
    textsDistinct_iff, unique_admits_eq_typescript apart, ?_⟩
  rintro numbers rfl finite
  have inGo := Target.go_distinct_iff finite
  refine ⟨inGo, ?_, fun alike => ?_⟩
  · rw [Bool.eq_iff_iff, inGo, Target.typescript_distinct_iff]
  · rw [Bool.eq_iff_iff, inGo, unique_admits_numbers_iff finite alike]

/-- All reject an array that has one number twice, in one form. -/
theorem unique_items_verdicts_twice :
    let numbers := [JsonNumber.integer (-1), .integer (-1)]
    let elements := numbers.map Json.number
    (∀ element ∈ elements, element.NamesApart) ∧
    (∀ value ∈ elements, ∀ other ∈ elements, value.data = other.data →
      value.held = other.held ∧ value.script = other.script) ∧
    (∀ n ∈ numbers, n.toBinary64?.isSome) ∧ (∀ m ∈ numbers, ∀ n ∈ numbers, m.Alike n) ∧
    ArrayConstraints.unique.admits elements = false ∧
    ∀ target : Target, target.uniqueAnswer? elements = some false := by
  intro numbers elements
  have apart : ∀ element ∈ elements, element.NamesApart := namesApart_number
  have alike : ∀ value ∈ elements, ∀ other ∈ elements, value.data = other.data →
      value.held = other.held ∧ value.script = other.script := by
    simp [elements, numbers]
  have finite : ∀ n ∈ numbers, n.toBinary64?.isSome := by decide +kernel
  have forms : ∀ m ∈ numbers, ∀ n ∈ numbers, m.Alike n := by
    simp [numbers, JsonNumber.Alike, significandEnd]
  have rejected : ArrayConstraints.unique.admits elements = false := by decide
  obtain ⟨answers, -, -, script, inGo⟩ := unique_items_verdicts apart
  have ofScript := (script alike).symm.trans rejected
  have ofGo := ((inGo numbers rfl finite).2.2 forms).symm.trans rejected
  refine ⟨apart, alike, finite, forms, rejected, fun target => ?_⟩
  cases target with
  | go => exact (answers .go).trans (congrArg some ofGo)
  | typescript => exact (answers .typescript).trans (congrArg some ofScript)

/-- The verdicts differ where a number is in two forms, and where members are in two orders. -/
theorem unique_items_verdicts_differ :
    let forms := [Json.number (.integer 1), .number (.real Binary64.one)]
    let orders := [Json.object [("a", .null), ("b", .null)], .object [("b", .null), ("a", .null)]]
    (ArrayConstraints.unique.admits forms = true ∧
      ∀ target : Target, target.uniqueAnswer? forms = some false) ∧
    ArrayConstraints.unique.admits orders = false ∧
    Target.typescript.uniqueAnswer? orders = some true := by
  intro forms orders
  refine ⟨⟨by decide, fun target => ?_⟩, by decide, ?_⟩
  · have finite : ∀ n ∈ [JsonNumber.integer 1, .real Binary64.one], n.toBinary64?.isSome := by
      decide +kernel
    have twice : ¬([JsonNumber.integer 1, .real Binary64.one].map fun n => n.nearest.toInt).Nodup := by
      decide +kernel
    rw [target.uniqueAnswer?_eq]
    refine congrArg some (Bool.eq_false_iff.mpr fun h => twice ?_)
    cases target with
    | go => exact (Target.go_distinct_iff finite).mp h
    | typescript => exact Target.typescript_distinct_iff.mp h
  · rw [Target.uniqueAnswer?_eq]
    refine congrArg some (textsDistinct_iff.mpr ?_)
    have atA : arrayIndex? "a" = none := arrayIndex?_eq_none List.mem_cons_self rfl
    have atB : arrayIndex? "b" = none := arrayIndex?_eq_none List.mem_cons_self rfl
    have first : (Json.object [("a", .null), ("b", .null)]).script =
        .object [("a", .null), ("b", .null)] := by
      rw [Json.script, Json.normal_object, scriptOrder_eq_self (by simp [atA, atB])]
      rfl
    have second : (Json.object [("b", .null), ("a", .null)]).script =
        .object [("b", .null), ("a", .null)] := by
      rw [Json.script, Json.normal_object, scriptOrder_eq_self (by simp [atA, atB])]
      rfl
    rw [List.map_cons, List.map_singleton, first, second]
    simp

end CheckedTypes
