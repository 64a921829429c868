import CheckedTypes.JsonLexeme

namespace CheckedTypes

structure JsonNumeral where
  negative : Bool
  whole : List Nat
  fraction : List Nat
  exponent : Option Int

def digit? (c : Char) : Option Nat :=
  if '0' ≤ c ∧ c ≤ '9' then some (c.toNat - '0'.toNat) else none

def takeDigits : List Symbol → List Nat × List Symbol
  | some c :: rest =>
    match digit? c with
    | some d =>
      let (digits, rest) := takeDigits rest
      (d :: digits, rest)
    | none => ([], some c :: rest)
  | symbols => ([], symbols)

theorem length_takeDigits_le (symbols : List Symbol) :
    (takeDigits symbols).2.length ≤ symbols.length := by
  fun_induction takeDigits symbols <;> simp_all
  omega

theorem takeDigits_progress {symbols : List Symbol} {d : Nat} {digits : List Nat}
    (h : (takeDigits symbols).1 = d :: digits) :
    (takeDigits symbols).2.length < symbols.length := by
  unfold takeDigits at h ⊢
  split at h
  · next c rest =>
    split at h
    · have := length_takeDigits_le rest
      simp only [*, List.length_cons]
      omega
    · simp at h
  · simp at h

def missingDigit (rest : List Symbol) : JsonBreak :=
  ⟨if rest.isEmpty then .endOfValue else .invalidNumber, .invalidNumber⟩

namespace JsonNumeral

/-- The digits before the point: a zero stands alone. -/
def scanWhole (symbols : List Symbol) : Except JsonBreak (List Nat × List Symbol) :=
  match (takeDigits symbols).1 with
  | [] => .error (missingDigit (takeDigits symbols).2)
  | 0 :: _ :: _ => .error (.both .invalidNumber)
  | d :: digits => .ok (d :: digits, (takeDigits symbols).2)

def scanFraction : List Symbol → Except JsonBreak (List Nat × List Symbol)
  | some '.' :: rest =>
    match takeDigits rest with
    | ([], rest) => .error (missingDigit rest)
    | (digits, rest) => .ok (digits, rest)
  | symbols => .ok ([], symbols)

def natOfDigits (digits : List Nat) : Nat :=
  digits.foldl (fun n d => n * 10 + d) 0

def scanPower (negative : Bool) (symbols : List Symbol) :
    Except JsonBreak (Option Int × List Symbol) :=
  match takeDigits symbols with
  | ([], rest) => .error (missingDigit rest)
  | (digits, rest) =>
    .ok (some (if negative then -(natOfDigits digits : Int) else natOfDigits digits), rest)

def scanExponent : List Symbol → Except JsonBreak (Option Int × List Symbol)
  | some c :: rest =>
    if c = 'e' ∨ c = 'E' then
      match rest with
      | some '+' :: rest => scanPower false rest
      | some '-' :: rest => scanPower true rest
      | _ => scanPower false rest
    else .ok (none, some c :: rest)
  | symbols => .ok (none, symbols)

def scanUnsigned (negative : Bool) (symbols : List Symbol) :
    Except JsonBreak (JsonNumeral × List Symbol) := do
  let (whole, rest) ← scanWhole symbols
  let (fraction, rest) ← scanFraction rest
  let (exponent, rest) ← scanExponent rest
  return (⟨negative, whole, fraction, exponent⟩, rest)

theorem scanWhole_length {symbols rest : List Symbol} {digits : List Nat}
    (h : scanWhole symbols = .ok (digits, rest)) : rest.length < symbols.length := by
  unfold scanWhole at h
  split at h
  · simp at h
  · simp at h
  · next he =>
    cases h
    exact takeDigits_progress he

theorem scanFraction_length {symbols rest : List Symbol} {digits : List Nat}
    (h : scanFraction symbols = .ok (digits, rest)) : rest.length ≤ symbols.length := by
  unfold scanFraction at h
  split at h
  · next r =>
    split at h
    · simp at h
    · next ds r' _ he =>
      cases h
      have : rest.length ≤ r.length := by simpa [he] using length_takeDigits_le r
      simp only [List.length_cons]
      omega
  · cases h; exact Nat.le_refl _

theorem scanPower_length {negative : Bool} {symbols rest : List Symbol} {power : Option Int}
    (h : scanPower negative symbols = .ok (power, rest)) : rest.length ≤ symbols.length := by
  unfold scanPower at h
  split at h
  · simp at h
  · next ds r _ he =>
    cases h
    simpa [he] using length_takeDigits_le symbols

theorem scanExponent_length {symbols rest : List Symbol} {power : Option Int}
    (h : scanExponent symbols = .ok (power, rest)) : rest.length ≤ symbols.length := by
  unfold scanExponent at h
  split at h
  · split at h
    · split at h <;> have := scanPower_length h <;> simp_all <;> omega
    · cases h; exact Nat.le_refl _
  · cases h; exact Nat.le_refl _

theorem scanUnsigned_length {negative : Bool} {symbols rest : List Symbol} {numeral : JsonNumeral}
    (h : scanUnsigned negative symbols = .ok (numeral, rest)) :
    rest.length < symbols.length := by
  unfold scanUnsigned at h
  cases hw : scanWhole symbols with
  | error stop => rw [hw] at h; exact absurd h (by simp [bind, Except.bind])
  | ok whole =>
    rw [hw] at h
    cases hf : scanFraction whole.2 with
    | error stop => simp [bind, Except.bind, hf] at h
    | ok fraction =>
      cases he : scanExponent fraction.2 with
      | error stop => simp [bind, Except.bind, hf, he] at h
      | ok exponent =>
        simp only [bind, Except.bind, hf, he, pure, Except.pure, Except.ok.injEq,
          Prod.mk.injEq] at h
        have h1 := scanWhole_length hw
        have h2 := scanFraction_length hf
        have h3 := scanExponent_length he
        rw [← h.2]
        omega

end JsonNumeral

end CheckedTypes
