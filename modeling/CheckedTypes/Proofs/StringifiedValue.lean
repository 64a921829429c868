import CheckedTypes.Proofs.NormalValue
import CheckedTypes.Proofs.NumeralText
import CheckedTypes.Proofs.ValuePath

namespace CheckedTypes

/-- The text of a number in a script: its shortest digits, with an exponent if the point is far
from them. A half goes to the even digit, and zero has no sign. -/
def Binary64.scriptText (x : Binary64) : String :=
  if x.isZero then "0"
  else
    let decimal := Decimal.shortest .toEven x.steps
    let point := decimal.exponent + decimal.digitChars.length
    x.signText ++ (if -6 < point ∧ point ≤ 21 then decimal.positional "" else decimal.scientific)

/-- The number that a name is the text of, if it is the position of an element of an array. -/
def arrayIndex? (name : String) : Option Nat :=
  name.toNat?.filter fun n => toString n == name && n < 2 ^ 32 - 1

/-- The members of an object as a script has them: the ones with positions for names in front, by
their positions, and the others as they came. -/
def scriptOrder {α : Type} (members : List (String × α)) : List (String × α) :=
  (members.filter fun member => (arrayIndex? member.1).isSome).mergeSort
    (fun a b => decide ((arrayIndex? a.1).getD 0 ≤ (arrayIndex? b.1).getD 0)) ++
  members.filter fun member => (arrayIndex? member.1).isNone

theorem scriptOrder_perm {α : Type} (members : List (String × α)) :
    (scriptOrder members).Perm members := by
  have apart : (members.filter fun member => (arrayIndex? member.1).isNone) =
      members.filter fun member => !(arrayIndex? member.1).isSome := by
    simp
  rw [scriptOrder, apart]
  exact ((List.mergeSort_perm _ _).append_right _).trans (List.filter_append_perm _ _)

/-- The order goes by the names alone. -/
theorem scriptOrder_map {α β : Type} (f : α → β) (members : List (String × α)) :
    scriptOrder (members.map fun member => (member.1, f member.2)) =
      (scriptOrder members).map fun member => (member.1, f member.2) := by
  have sorted := List.map_mergeSort (f := fun member : String × α => (member.1, f member.2))
    (s := fun a b => decide ((arrayIndex? a.1).getD 0 ≤ (arrayIndex? b.1).getD 0))
    (l := members.filter fun member => (arrayIndex? member.1).isSome) fun _ _ _ _ => rfl
  rw [scriptOrder, scriptOrder, List.map_append, sorted, List.filter_map, List.filter_map]
  rfl

/-- What is not written in digits is not the position of an element. -/
theorem arrayIndex?_eq_none {name : String} {c : Char} (inside : c ∈ name.toList)
    (noDigit : c.isDigit = false) : arrayIndex? name = none := by
  rw [arrayIndex?, Option.filter_eq_none_iff]
  intro n _ h
  simp only [Bool.and_eq_true, beq_iff_eq] at h
  rw [← h.1, Nat.toString_eq_ofList_toDigits, String.toList_ofList] at inside
  rw [isDigit_of_mem_toDigits c inside] at noDigit
  cases noDigit

/-- Members stay in order whose names are no positions. -/
theorem scriptOrder_eq_self {α : Type} {members : List (String × α)}
    (names : ∀ member ∈ members, arrayIndex? member.1 = none) : scriptOrder members = members := by
  have front : (members.filter fun member => (arrayIndex? member.1).isSome) = [] := by
    rw [List.filter_eq_nil_iff]
    intro member hm
    simp [names member hm]
  have others : (members.filter fun member => (arrayIndex? member.1).isNone) = members := by
    rw [List.filter_eq_self]
    intro member hm
    simp [names member hm]
  rw [scriptOrder, front, others, List.mergeSort_nil, List.nil_append]

namespace Json

mutual
/-- The text of a value that was read by a script, without blanks. -/
def stringify : Json → String
  | .null => "null"
  | .boolean b => if b then "true" else "false"
  | .number n => n.nearest.scriptText
  | .string s => quote s
  | .list elements => "[" ++ ",".intercalate (stringifyElements elements) ++ "]"
  | .object members =>
    "\x7b" ++ ",".intercalate ((scriptOrder (stringifyMembers members)).map fun member =>
      quote member.1 ++ ":" ++ member.2) ++ "\x7d"
def stringifyElements : List Json → List String
  | [] => []
  | value :: rest => value.stringify :: stringifyElements rest
def stringifyMembers : List (String × Json) → List (String × String)
  | [] => []
  | (name, value) :: rest => (name, value.stringify) :: stringifyMembers rest
end

theorem stringifyElements_eq_map (elements : List Json) :
    stringifyElements elements = elements.map stringify := by
  induction elements with
  | nil => rw [stringifyElements, List.map_nil]
  | cons value rest ih => rw [stringifyElements, ih, List.map_cons]

theorem stringifyMembers_eq_map (members : List (String × Json)) :
    stringifyMembers members = members.map fun member => (member.1, member.2.stringify) := by
  induction members with
  | nil => rw [stringifyMembers, List.map_nil]
  | cons member rest ih => rw [stringifyMembers, ih, List.map_cons]

/-- A value as a script sees it: numbers have no form, and members are in the script's order. -/
def script (value : Json) : Json :=
  value.normal JsonNumber.computed scriptOrder

theorem data_script {value : Json} (apart : value.NamesApart) : value.script.data = value.data :=
  normal_normal JsonNumber.computed_computed scriptOrder_perm apart

end Json

/-- A character of the text of a number. -/
def IsNumeric (c : Char) : Prop :=
  c.isDigit = true ∨ c = '-' ∨ c = '+' ∨ c = '.' ∨ c = 'e'

instance : DecidablePred IsNumeric :=
  fun _ => inferInstanceAs (Decidable (_ ∨ _))

theorem isNumeric_of_mem_toDigits {n : Nat} {c : Char} (h : c ∈ Nat.toDigits 10 n) : IsNumeric c :=
  .inl (isDigit_of_mem_toDigits c h)

theorem Decimal.isNumeric_of_mem_positional {d : Decimal} {c : Char}
    (h : c ∈ (d.positional "").toList) : IsNumeric c :=
  (Decimal.mem_positional h).imp_right fun point => .inr (.inr (.inl point))

theorem Decimal.isNumeric_of_mem_scientific {d : Decimal} {c : Char}
    (h : c ∈ d.scientific.toList) : IsNumeric c := by
  have digits : ∀ c ∈ d.digitChars, IsNumeric c := fun _ => isNumeric_of_mem_toDigits
  unfold scientific at h
  simp only [String.toList_append, String.toList_ofList, List.mem_append,
    Nat.toString_eq_ofList_toDigits] at h
  rcases h with (((h | h) | h) | h) | h
  · exact digits c (List.mem_of_mem_take h)
  · split at h
    next => cases h
    next =>
      simp only [String.toList_append, String.toList_ofList, List.mem_append] at h
      rcases h with h | h
      · cases List.mem_singleton.mp h
        exact .inr (.inr (.inr (.inl rfl)))
      · exact digits c (List.mem_of_mem_drop h)
  · cases List.mem_singleton.mp h
    exact .inr (.inr (.inr (.inr rfl)))
  · split at h
    next =>
      cases List.mem_singleton.mp h
      exact .inr (.inl rfl)
    next =>
      cases List.mem_singleton.mp h
      exact .inr (.inr (.inl rfl))
  · exact isNumeric_of_mem_toDigits h

namespace Binary64

theorem isNumeric_of_mem_scriptText {x : Binary64} {c : Char} (h : c ∈ x.scriptText.toList) :
    IsNumeric c := by
  unfold scriptText at h
  split at h
  next =>
    cases List.mem_singleton.mp h
    exact .inl rfl
  next =>
    dsimp only at h
    rw [String.toList_append] at h
    rcases List.mem_append.mp h with h | h
    · unfold signText at h
      split at h
      next =>
        cases List.mem_singleton.mp h
        exact .inr (.inl rfl)
      next => cases h
    · split at h
      next => exact Decimal.isNumeric_of_mem_positional h
      next => exact Decimal.isNumeric_of_mem_scientific h

/-- A number is read back from its text in a script, apart from the sign of zero. -/
theorem ofText?_scriptText (x : Binary64) : ofText? x.scriptText = some x.unsignZero := by
  unfold scriptText unsignZero
  cases hz : x.isZero with
  | true =>
    rw [if_pos rfl, if_pos rfl]
    exact ofText?_plainText zero
  | false =>
    have positive := steps_pos hz
    have digits := Decimal.digits_shortest_pos .toEven x.short positive
    have near := Decimal.nearestSteps_shortest .toEven x.short positive
    rw [if_neg Bool.false_ne_true, if_neg Bool.false_ne_true]
    dsimp only
    split
    next => exact (Decimal.writtenAs_positional digits).ofText? near
    next => exact (Decimal.writtenAs_scientific digits).ofText? near

theorem scriptText_eq_iff {x y : Binary64} :
    x.scriptText = y.scriptText ↔ x.unsignZero = y.unsignZero := by
  constructor
  · intro h
    have read := x.ofText?_scriptText
    rw [h, y.ofText?_scriptText] at read
    exact (Option.some.inj read).symm
  · intro h
    have value := unsignZero_eq_iff.mp h
    cases hx : x.isZero with
    | true =>
      have hy : y.isZero = true := isZero_iff.mpr (value.symm.trans (isZero_iff.mp hx))
      rw [scriptText, scriptText, if_pos hx, if_pos hy]
    | false => rw [eq_of_toInt_eq value hx]

end Binary64

/-- What follows a value that is written: nothing, or what ends or separates values. -/
def Ends (rest : List Char) : Prop :=
  ∀ c ∈ rest.head?, c = ',' ∨ c = ']' ∨ c = '\x7d'

theorem not_isNumeric_of_ends {c : Char} {rest : List Char} (ends : Ends (c :: rest)) :
    ¬IsNumeric c := by
  rcases ends c rfl with rfl | rfl | rfl <;> simp [IsNumeric, Char.isDigit]

/-- Where a text of such characters ends does not depend on what follows. -/
theorem numeric_append_inj {text other rest more : List Char} (numeric : ∀ c ∈ text, IsNumeric c)
    (numeric' : ∀ c ∈ other, IsNumeric c) (ends : Ends rest) (ends' : Ends more)
    (h : text ++ rest = other ++ more) : text = other ∧ rest = more := by
  induction text generalizing other with
  | nil =>
    cases other with
    | nil => exact ⟨rfl, h⟩
    | cons c other =>
      rw [List.nil_append] at h
      rw [h] at ends
      exact absurd (numeric' c List.mem_cons_self) (not_isNumeric_of_ends ends)
  | cons c text ih =>
    cases other with
    | nil =>
      rw [List.nil_append] at h
      rw [← h] at ends'
      exact absurd (numeric c List.mem_cons_self) (not_isNumeric_of_ends ends')
    | cons d other =>
      obtain ⟨rfl, tails⟩ := List.cons.inj h
      obtain ⟨rfl, same⟩ := ih (fun c hc => numeric c (List.mem_cons_of_mem _ hc))
        (fun c hc => numeric' c (List.mem_cons_of_mem _ hc)) tails
      exact ⟨rfl, same⟩

section

variable {α β : Type} (text : α → List Char) (image : α → β)

/-- The text of something tells where it ends and what is seen of it. -/
def Told (a : α) : Prop :=
  ∀ b rest more, Ends rest → Ends more → text a ++ rest = text b ++ more →
    image a = image b ∧ rest = more

variable {text image} {close : Char} {rest more : List Char}

theorem ends_flatMap (list : List α) (closes : close = ']' ∨ close = '\x7d') :
    Ends (list.flatMap (fun a => ',' :: text a) ++ close :: rest) := by
  cases list with
  | nil =>
    rintro c ⟨⟩
    exact .inr closes
  | cons a list =>
    rintro c ⟨⟩
    exact .inl rfl

theorem flatMap_append_inj {list others : List α} (told : ∀ a ∈ list, Told text image a)
    (closes : close = ']' ∨ close = '\x7d')
    (h : list.flatMap (fun a => ',' :: text a) ++ close :: rest =
      others.flatMap (fun a => ',' :: text a) ++ close :: more) :
    list.map image = others.map image ∧ rest = more := by
  have noComma : close ≠ ',' := by rcases closes with rfl | rfl <;> decide
  induction list generalizing others with
  | nil =>
    cases others with
    | nil => exact ⟨rfl, (List.cons.inj h).2⟩
    | cons b others => exact absurd (List.cons.inj h).1 noComma
  | cons a list ih =>
    cases others with
    | nil => exact absurd (List.cons.inj h).1.symm noComma
    | cons b others =>
      simp only [List.flatMap_cons, List.cons_append, List.append_assoc, List.cons.injEq,
        true_and] at h
      obtain ⟨first, h⟩ := told a List.mem_cons_self b _ _ (ends_flatMap list closes)
        (ends_flatMap others closes) h
      obtain ⟨others, same⟩ := ih (fun a ha => told a (List.mem_cons_of_mem _ ha)) h
      rw [List.map_cons, List.map_cons, first, others]
      exact ⟨rfl, same⟩

theorem intercalate_cons (first : List Char) (others : List (List Char)) :
    [','].intercalate (first :: others) = first ++ others.flatMap (',' :: ·) := by
  induction others generalizing first with
  | nil => simp
  | cons next others ih =>
    rw [List.intercalate_cons_cons, ih, List.flatMap_cons]
    simp

theorem intercalate_append_inj {list others : List α} (told : ∀ a ∈ list, Told text image a)
    (begins : ∀ a, ∃ c tail, text a = c :: tail ∧ c ≠ close)
    (closes : close = ']' ∨ close = '\x7d')
    (h : [','].intercalate (list.map text) ++ close :: rest =
      [','].intercalate (others.map text) ++ close :: more) :
    list.map image = others.map image ∧ rest = more := by
  cases list with
  | nil =>
    cases others with
    | nil => exact ⟨rfl, (List.cons.inj h).2⟩
    | cons b others =>
      obtain ⟨c, tail, hc, hne⟩ := begins b
      rw [List.map_cons, intercalate_cons, hc] at h
      exact absurd (List.cons.inj h).1.symm hne
  | cons a list =>
    cases others with
    | nil =>
      obtain ⟨c, tail, hc, hne⟩ := begins a
      rw [List.map_cons, intercalate_cons, hc] at h
      exact absurd (List.cons.inj h).1 hne
    | cons b others =>
      rw [List.map_cons, List.map_cons, intercalate_cons, intercalate_cons, List.append_assoc,
        List.append_assoc, List.flatMap_map, List.flatMap_map] at h
      obtain ⟨first, h⟩ := told a List.mem_cons_self b _ _ (ends_flatMap list closes)
        (ends_flatMap others closes) h
      obtain ⟨others, same⟩ :=
        flatMap_append_inj (fun a ha => told a (List.mem_cons_of_mem _ ha)) closes h
      rw [List.map_cons, List.map_cons, first, others]
      exact ⟨rfl, same⟩

end

namespace Json

def memberText (member : String × Json) : List Char :=
  quotedChars member.1.toList ++ ':' :: member.2.stringify.toList

theorem toList_stringify_list (elements : List Json) :
    (list elements).stringify.toList =
      '[' :: ([','].intercalate (elements.map fun element => element.stringify.toList) ++ [']']) := by
  rw [stringify, stringifyElements_eq_map]
  simp [String.toList_intercalate, List.map_map, Function.comp_def]

theorem toList_stringify_object (members : List (String × Json)) :
    (object members).stringify.toList =
      '\x7b' :: ([','].intercalate ((scriptOrder members).map memberText) ++ ['\x7d']) := by
  have texts : memberText = fun member : String × Json =>
      quotedChars member.1.toList ++ ':' :: member.2.stringify.toList := rfl
  rw [stringify, stringifyMembers_eq_map, scriptOrder_map, texts]
  simp [String.toList_intercalate, List.map_map, Function.comp_def, quote]

/-- The first character of the text of a value; one stands for those of booleans, a zero for those
of numbers. -/
def opening : Json → Char
  | .null => 'n'
  | .boolean _ => 't'
  | .number _ => '0'
  | .string _ => '"'
  | .list _ => '['
  | .object _ => '\x7b'

/-- What stands for a character by which a text begins. -/
def beginning (c : Char) : Char :=
  if IsNumeric c then '0' else if c = 'f' then 't' else c

theorem exists_stringify (value : Json) :
    ∃ c rest, value.stringify.toList = c :: rest ∧ beginning c = value.opening := by
  cases value with
  | null => exact ⟨'n', "ull".toList, rfl, rfl⟩
  | boolean b =>
    cases b with
    | true => exact ⟨'t', "rue".toList, rfl, rfl⟩
    | false => exact ⟨'f', "alse".toList, rfl, rfl⟩
  | number n =>
    have numeric : ∀ c ∈ n.nearest.scriptText.toList, IsNumeric c :=
      fun _ => Binary64.isNumeric_of_mem_scriptText
    rw [stringify]
    cases hd : n.nearest.scriptText.toList with
    | nil =>
      have read := n.nearest.ofText?_scriptText
      rw [String.toList_eq_nil_iff.mp hd] at read
      cases read
    | cons c rest => exact ⟨c, rest, rfl, if_pos (numeric c (by rw [hd]; exact List.mem_cons_self))⟩
  | string s =>
    rw [stringify, quote, String.toList_ofList]
    exact ⟨'"', _, rfl, rfl⟩
  | list elements => exact ⟨'[', _, toList_stringify_list elements, rfl⟩
  | object members => exact ⟨'\x7b', _, toList_stringify_object members, rfl⟩

theorem opening_eq {value other : Json} {rest more : List Char}
    (h : value.stringify.toList ++ rest = other.stringify.toList ++ more) :
    value.opening = other.opening := by
  obtain ⟨c, tail, hc, begins⟩ := value.exists_stringify
  obtain ⟨d, tail', hd, begins'⟩ := other.exists_stringify
  rw [hc, hd] at h
  rw [← begins, ← begins', (List.cons.inj h).1]

/-- The text of a value does not begin as something ends. -/
theorem exists_stringify_ne {close : Char} (closes : close = ']' ∨ close = '\x7d') (value : Json) :
    ∃ c rest, value.stringify.toList = c :: rest ∧ c ≠ close := by
  obtain ⟨c, rest, hc, begins⟩ := value.exists_stringify
  refine ⟨c, rest, hc, ?_⟩
  have stays : beginning close = close := by rcases closes with rfl | rfl <;> rfl
  rintro rfl
  rw [stays] at begins
  subst begins
  cases value <;> rcases closes with h | h <;> cases h

theorem memberText_told {value : Json} (name : String)
    (told : Told (fun value => value.stringify.toList) script value) :
    Told memberText (fun member => (member.1, member.2.script)) (name, value) := by
  rintro ⟨name', value'⟩ rest more ends ends' h
  simp only [memberText, List.append_assoc, List.cons_append] at h
  obtain ⟨names, h⟩ := quotedChars_append_inj h
  obtain ⟨values, same⟩ := told value' rest more ends ends' (List.cons.inj h).2
  rw [String.toList_inj.mp names]
  exact ⟨congrArg (name', ·) values, same⟩

theorem list_told {elements : List Json}
    (told : ∀ element ∈ elements, Told (fun value => value.stringify.toList) script element) :
    Told (fun value => value.stringify.toList) script (list elements) := by
  intro other rest more _ _ h
  have opens := opening_eq h
  cases other with
  | list others =>
    simp only [toList_stringify_list, List.cons_append, List.append_assoc, List.nil_append,
      List.cons.injEq, true_and] at h
    obtain ⟨images, same⟩ := intercalate_append_inj told (exists_stringify_ne (.inl rfl))
      (.inl rfl) h
    rw [script, script, normal_list, normal_list]
    exact ⟨congrArg Json.list images, same⟩
  | _ => cases opens

theorem object_told {members : List (String × Json)}
    (told : ∀ member ∈ members, Told (fun value => value.stringify.toList) script member.2) :
    Told (fun value => value.stringify.toList) script (object members) := by
  intro other rest more _ _ h
  have opens := opening_eq h
  cases other with
  | object others =>
    have told : ∀ member ∈ scriptOrder members,
        Told memberText (fun member => (member.1, member.2.script)) member :=
      fun member hm => memberText_told member.1 (told member ((scriptOrder_perm members).subset hm))
    simp only [toList_stringify_object, List.cons_append, List.append_assoc, List.nil_append,
      List.cons.injEq, true_and] at h
    obtain ⟨images, same⟩ := intercalate_append_inj told
      (fun member => ⟨'"', _, rfl, by decide⟩) (.inr rfl) h
    rw [script, script, normal_object, normal_object, scriptOrder_map, scriptOrder_map]
    exact ⟨congrArg Json.object images, same⟩
  | _ => cases opens

/-- Where the text of a value ends, and what a script sees of the value, does not depend on what
follows. -/
theorem stringify_told (value : Json) :
    Told (fun value => value.stringify.toList) script value := by
  induction value with
  | null =>
    intro other rest more _ _ h
    have opens := opening_eq h
    cases other with
    | null => exact ⟨rfl, List.append_cancel_left h⟩
    | _ => cases opens
  | boolean b =>
    intro other rest more _ _ h
    have opens := opening_eq h
    cases other with
    | boolean b' =>
      have same : b = b' := by
        cases b <;> cases b' <;> first | rfl | cases (List.cons.inj h).1
      cases same
      exact ⟨rfl, List.append_cancel_left h⟩
    | _ => cases opens
  | number n =>
    intro other rest more ends ends' h
    have opens := opening_eq h
    cases other with
    | number n' =>
      obtain ⟨texts, same⟩ := numeric_append_inj (fun _ => Binary64.isNumeric_of_mem_scriptText)
        (fun _ => Binary64.isNumeric_of_mem_scriptText) ends ends' h
      have numbers := Binary64.scriptText_eq_iff.mp (String.toList_inj.mp texts)
      exact ⟨congrArg (fun x => Json.number (.real x)) numbers, same⟩
    | _ => cases opens
  | string s =>
    intro other rest more _ _ h
    have opens := opening_eq h
    cases other with
    | string s' =>
      simp only [stringify, quote, String.toList_ofList] at h
      obtain ⟨texts, same⟩ := quotedChars_append_inj h
      rw [String.toList_inj.mp texts]
      exact ⟨rfl, same⟩
    | _ => cases opens
  | list elements ih => exact list_told ih
  | object members ih => exact object_told fun member hm => ih member.1 member.2 hm

theorem map_eq_of_map_eq {α β γ : Type} {f : α → β} {g : α → γ} {list others : List α}
    (finer : ∀ a ∈ list, ∀ b, f a = f b → g a = g b) (h : list.map f = others.map f) :
    list.map g = others.map g := by
  induction list generalizing others with
  | nil =>
    cases others with
    | nil => rfl
    | cons b others => cases h
  | cons a list ih =>
    cases others with
    | nil => cases h
    | cons b others =>
      obtain ⟨first, rest⟩ := List.cons.inj h
      rw [List.map_cons, List.map_cons, finer a List.mem_cons_self b first,
        ih (fun a ha => finer a (List.mem_cons_of_mem _ ha)) rest]

theorem stringify_congr {value other : Json} (h : value.script = other.script) :
    value.stringify = other.stringify := by
  induction value generalizing other with
  | null => cases other <;> first | rfl | cases h
  | boolean b => cases other <;> first | (cases h; rfl) | cases h
  | number n =>
    cases other with
    | number n' =>
      have numbers : n.computed = n'.computed := Json.number.inj h
      exact Binary64.scriptText_eq_iff.mpr (JsonNumber.real.inj numbers)
    | _ => cases h
  | string s => cases other <;> first | (cases h; rfl) | cases h
  | list elements ih =>
    cases other with
    | list others =>
      rw [script, script, normal_list, normal_list] at h
      have texts := map_eq_of_map_eq (fun element he _ => ih element he)
        (list.inj h)
      rw [stringify, stringify, stringifyElements_eq_map, stringifyElements_eq_map, texts]
    | _ => cases h
  | object members ih =>
    cases other with
    | object others =>
      rw [script, script, normal_object, normal_object, scriptOrder_map, scriptOrder_map] at h
      have texts : (scriptOrder members).map memberText = (scriptOrder others).map memberText := by
        refine map_eq_of_map_eq (fun member hm other alike => ?_) (object.inj h)
        obtain ⟨names, values⟩ := Prod.mk.inj alike
        have inside := (scriptOrder_perm members).subset hm
        rw [memberText, memberText, names, ih member.1 member.2 inside values]
      apply String.toList_inj.mp
      rw [toList_stringify_object, toList_stringify_object, texts]
    | _ => cases h

/-- Two values have the same text exactly if a script sees the same in them. -/
theorem stringify_eq_iff {value other : Json} :
    value.stringify = other.stringify ↔ value.script = other.script := by
  refine ⟨fun h => ?_, stringify_congr⟩
  have ends : Ends [] := fun _ h => by cases h
  exact (value.stringify_told other [] [] ends ends (congrArg (·.toList ++ []) h)).1

end Json

end CheckedTypes
