import CheckedTypes.JsonNumeral
import CheckedTypes.Proofs.ShortestDecimal

namespace CheckedTypes

def digitValue (c : Char) : Nat :=
  c.toNat - '0'.toNat

theorem digit?_of_isDigit {c : Char} (h : c.isDigit = true) : digit? c = some (digitValue c) := by
  rw [Char.isDigit, Bool.and_eq_true, decide_eq_true_eq, decide_eq_true_eq] at h
  exact if_pos h

theorem digit?_of_not_isDigit {c : Char} (h : c.isDigit = false) : digit? c = none := by
  refine if_neg fun between => ?_
  have digit : c.isDigit = true := by
    rw [Char.isDigit, Bool.and_eq_true, decide_eq_true_eq, decide_eq_true_eq]
    exact between
  rw [h] at digit
  exact Bool.false_ne_true digit

/-- What follows does not go on with a digit. -/
def Stops (rest : List Char) : Prop :=
  ∀ c ∈ rest.head?, c.isDigit = false

theorem takeDigits_append {digits rest : List Char} (all : ∀ c ∈ digits, c.isDigit = true)
    (stops : Stops rest) :
    takeDigits ((digits ++ rest).map some) = (digits.map digitValue, rest.map some) := by
  induction digits with
  | nil =>
    cases rest with
    | nil => rfl
    | cons c rest =>
      have stop := digit?_of_not_isDigit (stops c rfl)
      simp [takeDigits, stop]
  | cons c digits ih =>
    have first := digit?_of_isDigit (all c List.mem_cons_self)
    have others := ih fun c hc => all c (List.mem_cons_of_mem _ hc)
    simp only [List.cons_append, List.map_cons, takeDigits, first, others]

theorem isDigit_of_mem_toDigits {n : Nat} : ∀ c ∈ Nat.toDigits 10 n, c.isDigit = true :=
  fun _ => Nat.isDigit_of_mem_toDigits (by decide) (by decide)

theorem isDigit_of_mem_zeros (count : Nat) :
    ∀ c ∈ List.replicate count '0', c.isDigit = true := by
  intro c hc
  rw [List.eq_of_mem_replicate hc]
  rfl

theorem head?_toDigits_ne_zero {n : Nat} (positive : 0 < n) :
    (Nat.toDigits 10 n).head? ≠ some '0' := by
  induction n using Nat.strong_induction_on with
  | _ n ih =>
    rcases Nat.lt_or_ge n 10 with less | more
    · rw [Nat.toDigits_of_lt_base less]
      interval_cases n <;> decide
    · rw [Nat.toDigits_of_base_le (by decide) more, List.head?_append_of_ne_nil _ Nat.toDigits_ne_nil]
      exact ih (n / 10) (by omega) (by omega)

namespace JsonNumeral

theorem natOfDigits_map (digits : List Char) :
    natOfDigits (digits.map digitValue) = Nat.ofDigitChars 10 digits 0 := by
  rw [natOfDigits, List.foldl_map, Nat.ofDigitChars_eq_foldl]
  simp only [Nat.mul_comm 10]
  rfl

theorem natOfDigits_toDigits (n : Nat) :
    natOfDigits ((Nat.toDigits 10 n).map digitValue) = n := by
  rw [natOfDigits_map, Nat.ofDigitChars_ten_toDigits]

/-- The digits as one number, with the power of ten that puts the point where it was. -/
def decimal (numeral : JsonNumeral) : Decimal :=
  ⟨natOfDigits (numeral.whole ++ numeral.fraction),
    numeral.exponent.getD 0 - numeral.fraction.length⟩

/-- The number nearest to the one that is written. -/
def nearest? (numeral : JsonNumeral) : Option Binary64 :=
  Binary64.ofSteps? numeral.negative (numeral.decimal.fraction.1 * stepsPerUnit)
    numeral.decimal.fraction.2

theorem nearest?_of_nearestSteps {numeral : JsonNumeral} {x : Binary64}
    (sign : numeral.negative = x.negative) (near : numeral.decimal.nearestSteps = x.steps) :
    numeral.nearest? = some x := by
  rw [nearest?, sign]
  exact Binary64.ofSteps?_eq_some near

/-- The numeral that a whole text is, apart from its sign. -/
def ofUnsigned? (negative : Bool) (chars : List Char) : Option JsonNumeral :=
  match scanUnsigned negative (chars.map some) with
  | .ok (numeral, []) => some numeral
  | _ => none

/-- The digits after the point, with the point. -/
def pointed (fraction : List Char) : List Char :=
  if fraction.isEmpty then [] else '.' :: fraction

theorem stops_pointed_append (fraction : List Char) {power : List Char} (stops : Stops power) :
    Stops (pointed fraction ++ power) := by
  unfold pointed
  split
  next => exact stops
  next =>
    rintro c ⟨⟩
    rfl

theorem scanWhole_append {whole rest : List Char} (all : ∀ c ∈ whole, c.isDigit = true)
    (some_digit : whole ≠ []) (first : whole = ['0'] ∨ whole.head? ≠ some '0')
    (stops : Stops rest) :
    scanWhole ((whole ++ rest).map some) = .ok (whole.map digitValue, rest.map some) := by
  have taken := takeDigits_append all stops
  unfold scanWhole
  rw [taken]
  cases whole with
  | nil => exact absurd rfl some_digit
  | cons c digits =>
    rcases first with zero | first
    · cases zero
      rfl
    · have nonzero : digitValue c ≠ 0 := by
        intro zero
        have digit := all c List.mem_cons_self
        have low : 48 ≤ c.toNat := by
          rw [Char.isDigit, Bool.and_eq_true, decide_eq_true_eq] at digit
          exact digit.1
        have same : c.toNat = '0'.toNat := by
          unfold digitValue at zero
          simp only [Char.reduceToNat] at zero ⊢
          omega
        exact first (congrArg some (Char.toNat_inj.mp same))
      simp only [List.map_cons]
      split
      next h => exact absurd h (by simp)
      next h => exact absurd (List.cons.inj h).1 nonzero
      next h =>
        cases h
        rfl

theorem scanFraction_append {fraction power : List Char}
    (all : ∀ c ∈ fraction, c.isDigit = true) (stops : Stops power)
    (point : power.head? ≠ some '.') :
    scanFraction ((pointed fraction ++ power).map some) =
      .ok (fraction.map digitValue, power.map some) := by
  cases fraction with
  | nil =>
    cases power with
    | nil => rfl
    | cons c power =>
      have other : c ≠ '.' := fun same => point (congrArg some same)
      simp [pointed, scanFraction, other]
  | cons c digits =>
    have taken := takeDigits_append all stops
    simp only [pointed, List.isEmpty_cons, Bool.false_eq_true, if_false, List.cons_append,
      List.map_cons, scanFraction]
    simp only [List.cons_append, List.map_cons] at taken
    rw [taken]

/-- The numeral that a whole text is. -/
def ofChars? : List Char → Option JsonNumeral
  | '-' :: chars => ofUnsigned? true chars
  | chars => ofUnsigned? false chars

theorem ofUnsigned?_written (negative : Bool) {whole fraction power : List Char}
    {exponent : Option Int} (wholeDigits : ∀ c ∈ whole, c.isDigit = true)
    (fractionDigits : ∀ c ∈ fraction, c.isDigit = true) (some_digit : whole ≠ [])
    (first : whole = ['0'] ∨ whole.head? ≠ some '0') (stops : Stops power)
    (point : power.head? ≠ some '.')
    (scaled : scanExponent (power.map some) = .ok (exponent, [])) :
    ofUnsigned? negative (whole ++ (pointed fraction ++ power)) =
      some ⟨negative, whole.map digitValue, fraction.map digitValue, exponent⟩ := by
  have before := scanWhole_append wholeDigits some_digit first
    (stops_pointed_append fraction stops)
  have behind := scanFraction_append fractionDigits stops point
  unfold ofUnsigned? scanUnsigned
  simp only [before, behind, scaled, bind, Except.bind, pure, Except.pure]

theorem ofChars?_signText (x : Binary64) {chars : List Char} (plus : chars.head? ≠ some '-') :
    ofChars? (x.signText.toList ++ chars) = ofUnsigned? x.negative chars := by
  unfold Binary64.signText
  cases x.negative with
  | true => rfl
  | false =>
    show ofChars? chars = _
    unfold ofChars?
    split
    next rest => exact absurd rfl plus
    next => rfl

end JsonNumeral

namespace Binary64

/-- The number nearest to the one that a text writes. -/
def ofText? (text : String) : Option Binary64 :=
  (JsonNumeral.ofChars? text.toList).bind JsonNumeral.nearest?

end Binary64

/-- A text writes a number, without a sign. -/
structure Decimal.WrittenAs (d : Decimal) (chars : List Char) : Prop where
  unsigned : chars.head? ≠ some '-'
  reads : ∀ negative, ∃ numeral, JsonNumeral.ofUnsigned? negative chars = some numeral ∧
    numeral.negative = negative ∧ numeral.decimal.nearestSteps = d.nearestSteps

namespace Decimal

theorem WrittenAs.ofText? {d : Decimal} {x : Binary64} {digits : String}
    (written : d.WrittenAs digits.toList) (near : d.nearestSteps = x.steps) :
    Binary64.ofText? (x.signText ++ digits) = some x := by
  obtain ⟨numeral, parsed, sign, steps⟩ := written.reads x.negative
  rw [Binary64.ofText?, String.toList_append, JsonNumeral.ofChars?_signText x written.unsigned,
    parsed, Option.bind_some]
  exact JsonNumeral.nearest?_of_nearestSteps sign (steps.trans near)

/-- Digits, a point and a power of ten write a number if they make it up. -/
theorem writtenAs {d : Decimal} (whole fraction : List Char) {power : List Char}
    {exponent : Option Int}
    (wholeDigits : ∀ c ∈ whole, c.isDigit = true)
    (fractionDigits : ∀ c ∈ fraction, c.isDigit = true) (some_digit : whole ≠ [])
    (first : whole = ['0'] ∨ whole.head? ≠ some '0') (stops : Stops power)
    (point : power.head? ≠ some '.')
    (scaled : JsonNumeral.scanExponent (power.map some) = .ok (exponent, []))
    (value : nearestSteps ⟨Nat.ofDigitChars 10 (whole ++ fraction) 0,
      exponent.getD 0 - fraction.length⟩ = d.nearestSteps) :
    d.WrittenAs (whole ++ (JsonNumeral.pointed fraction ++ power)) where
  unsigned := by
    cases whole with
    | nil => exact absurd rfl some_digit
    | cons c rest =>
      intro minus
      have digit := wholeDigits c List.mem_cons_self
      cases minus
      exact absurd digit (by decide)
  reads negative := by
    refine ⟨_, JsonNumeral.ofUnsigned?_written negative wholeDigits fractionDigits some_digit first
      stops point scaled, rfl, ?_⟩
    rw [← value, JsonNumeral.decimal, ← List.map_append, JsonNumeral.natOfDigits_map,
      List.length_map]

theorem nearestSteps_of_parts {digits : Nat} {exponent : Int} {d : Decimal}
    (sameDigits : digits = d.digits) (sameExponent : exponent = d.exponent) :
    nearestSteps ⟨digits, exponent⟩ = d.nearestSteps := by
  rw [sameDigits, sameExponent]

/-- Without a power of ten the digits behind the point say what the last digit stands for. -/
theorem writtenAs_pointed {d : Decimal} (whole fraction : List Char)
    (wholeDigits : ∀ c ∈ whole, c.isDigit = true)
    (fractionDigits : ∀ c ∈ fraction, c.isDigit = true) (some_digit : whole ≠ [])
    (first : whole = ['0'] ∨ whole.head? ≠ some '0')
    (value : nearestSteps ⟨Nat.ofDigitChars 10 (whole ++ fraction) 0, -fraction.length⟩ =
      d.nearestSteps) :
    d.WrittenAs (whole ++ JsonNumeral.pointed fraction) := by
  have stops : Stops [] := by simp [Stops]
  have ended : JsonNumeral.scanExponent (([] : List Char).map some) = .ok (none, []) := rfl
  have written := writtenAs (d := d) whole fraction wholeDigits fractionDigits some_digit first
    stops (by simp) ended (by rwa [Option.getD_none, zero_sub])
  rwa [List.append_nil] at written

theorem writtenAs_zero : WrittenAs ⟨0, 0⟩ ['0'] := by
  refine writtenAs_pointed ['0'] [] (isDigit_of_mem_zeros 1) (by simp) (by simp) (.inl rfl) ?_
  exact nearestSteps_of_parts rfl rfl

theorem ofDigitChars_digitChars (d : Decimal) : Nat.ofDigitChars 10 d.digitChars 0 = d.digits :=
  Nat.ofDigitChars_ten_toDigits

section

variable {d : Decimal}

theorem isDigit_of_mem_digitChars : ∀ c ∈ d.digitChars, c.isDigit = true :=
  isDigit_of_mem_toDigits

theorem digitChars_ne_nil : d.digitChars ≠ [] :=
  Nat.toDigits_ne_nil

theorem writtenAs_whole (positive : 0 < d.digits) (whole : 0 ≤ d.exponent) :
    d.WrittenAs (d.digitChars ++ List.replicate d.exponent.toNat '0') := by
  have first := head?_toDigits_ne_zero positive
  have written := writtenAs_pointed (d := d) (d.digitChars ++ List.replicate d.exponent.toNat '0') []
    (List.forall_mem_append.mpr ⟨isDigit_of_mem_digitChars, isDigit_of_mem_zeros _⟩) (by simp)
    (by simp [digitChars_ne_nil]) (.inr (by rwa [List.head?_append_of_ne_nil _ digitChars_ne_nil]))
    (by
      rw [List.append_nil, Nat.ofDigitChars_append, Nat.ofDigitChars_replicate_zero,
        ofDigitChars_digitChars, Nat.mul_comm, nearestSteps_mul_pow]
      apply nearestSteps_of_parts rfl
      simp only [List.length_nil]
      omega)
  simpa [JsonNumeral.pointed] using written

theorem writtenAs_inside (positive : 0 < d.digits) (negative : d.exponent < 0)
    (inside : (-d.exponent).toNat < d.digitChars.length) :
    d.WrittenAs (d.digitChars.take (d.digitChars.length - (-d.exponent).toNat) ++
      '.' :: d.digitChars.drop (d.digitChars.length - (-d.exponent).toNat)) := by
  have first := head?_toDigits_ne_zero positive
  have behind : ¬d.digitChars.length ≤ d.digitChars.length - (-d.exponent).toNat := by omega
  have written := writtenAs_pointed (d := d)
    (d.digitChars.take (d.digitChars.length - (-d.exponent).toNat))
    (d.digitChars.drop (d.digitChars.length - (-d.exponent).toNat))
    (fun c hc => isDigit_of_mem_digitChars c (List.mem_of_mem_take hc))
    (fun c hc => isDigit_of_mem_digitChars c (List.mem_of_mem_drop hc))
    (by simp only [Ne, List.take_eq_nil_iff, digitChars_ne_nil, or_false]; omega)
    (.inr (by rw [List.head?_take, if_neg (by omega)]; exact first)) (by
      rw [List.take_append_drop, ofDigitChars_digitChars, List.length_drop]
      apply nearestSteps_of_parts rfl
      omega)
  simpa [JsonNumeral.pointed, behind] using written

theorem writtenAs_behind (negative : d.exponent < 0)
    (behind : d.digitChars.length ≤ (-d.exponent).toNat) :
    d.WrittenAs ('0' :: '.' :: (List.replicate ((-d.exponent).toNat - d.digitChars.length) '0' ++
      d.digitChars)) := by
  have written := writtenAs_pointed (d := d) ['0']
    (List.replicate ((-d.exponent).toNat - d.digitChars.length) '0' ++ d.digitChars)
    (isDigit_of_mem_zeros 1)
    (List.forall_mem_append.mpr ⟨isDigit_of_mem_zeros _, isDigit_of_mem_digitChars⟩) (by simp)
    (.inl rfl) (by
      rw [← List.append_assoc, ← List.replicate_one, List.replicate_append_replicate,
        Nat.ofDigitChars_append, Nat.ofDigitChars_replicate_zero, Nat.mul_zero,
        ofDigitChars_digitChars, List.length_append, List.length_replicate]
      apply nearestSteps_of_parts rfl
      omega)
  simpa [JsonNumeral.pointed, digitChars_ne_nil] using written

theorem writtenAs_positional (positive : 0 < d.digits) :
    d.WrittenAs (d.positional "").toList := by
  unfold positional
  dsimp only
  split
  next whole => simpa using writtenAs_whole positive whole
  next negative =>
    split
    next inside => simpa using writtenAs_inside positive (by omega) inside
    next behind => simpa using writtenAs_behind (by omega) (by omega)

end

theorem scanExponent_power (negative : Bool) (n : Nat) :
    JsonNumeral.scanExponent (('e' :: (if negative then '-' else '+') :: Nat.toDigits 10 n).map
      some) = .ok (some (if negative then -(n : Int) else n), []) := by
  have stops : Stops [] := by simp [Stops]
  have taken := takeDigits_append (isDigit_of_mem_toDigits (n := n)) stops
  have value := JsonNumeral.natOfDigits_toDigits n
  rw [List.append_nil] at taken
  have power : JsonNumeral.scanPower negative ((Nat.toDigits 10 n).map some) =
      .ok (some (if negative then -(n : Int) else n), []) := by
    unfold JsonNumeral.scanPower
    rw [taken]
    cases hd : (Nat.toDigits 10 n).map digitValue with
    | nil => exact absurd (List.map_eq_nil_iff.mp hd) Nat.toDigits_ne_nil
    | cons d digits =>
      rw [hd] at value
      simp only [value]
      rfl
  cases negative with
  | true => exact power
  | false => exact power

theorem writtenAs_scientific {d : Decimal} (positive : 0 < d.digits) :
    d.WrittenAs d.scientific.toList := by
  have digits := isDigit_of_mem_digitChars (d := d)
  have count : 0 < d.digitChars.length := Nat.length_toDigits_pos
  have first : d.digitChars.head? ≠ some '0' := head?_toDigits_ne_zero positive
  have value := d.ofDigitChars_digitChars
  have scaled := scanExponent_power (decide (d.exponent + d.digitChars.length - 1 < 0))
    (d.exponent + d.digitChars.length - 1).natAbs
  have written := writtenAs (d := d) (d.digitChars.take 1) (d.digitChars.drop 1)
    (fun c hc => digits c (List.mem_of_mem_take hc))
    (fun c hc => digits c (List.mem_of_mem_drop hc))
    (by rw [Ne, List.take_eq_nil_iff, ← List.length_eq_zero_iff]; omega)
    (.inr (by rw [List.head?_take, if_neg Nat.one_ne_zero]; exact first))
    (by rintro c ⟨⟩; rfl) (by simp) scaled (by
      rw [List.take_append_drop, value, List.length_drop]
      apply nearestSteps_of_parts rfl
      simp only [Option.getD_some, decide_eq_true_eq]
      split <;> omega)
  have chars : d.scientific.toList = d.digitChars.take 1 ++
      (JsonNumeral.pointed (d.digitChars.drop 1) ++
        'e' :: (if decide (d.exponent + d.digitChars.length - 1 < 0) then '-' else '+') ::
          Nat.toDigits 10 (d.exponent + d.digitChars.length - 1).natAbs) := by
    unfold scientific JsonNumeral.pointed
    simp only [String.toList_append, String.toList_ofList, List.append_assoc,
      Nat.toString_eq_ofList_toDigits, List.isEmpty_iff, List.drop_eq_nil_iff, decide_eq_true_eq]
    split <;> split <;> simp
  rw [chars]
  exact written

end Decimal

/-- A number is read back from the text that it is printed as. -/
theorem Binary64.ofText?_plainText (x : Binary64) : ofText? x.plainText = some x := by
  unfold plainText
  cases zero : x.isZero with
  | true =>
    have steps : x.steps = 0 := by simpa [isZero] using zero
    have written : Decimal.WrittenAs ⟨0, 0⟩ "0".toList := Decimal.writtenAs_zero
    rw [if_pos rfl]
    exact written.ofText? ((Decimal.nearestSteps_zero 0).trans steps.symm)
  | false =>
    have positive := steps_pos zero
    have digits := Decimal.digits_shortest_pos .up x.short positive
    rw [if_neg Bool.false_ne_true]
    exact (Decimal.writtenAs_positional digits).ofText?
      (Decimal.nearestSteps_shortest .up x.short positive)

end CheckedTypes
