import CheckedTypes.NumeralValue

namespace CheckedTypes

/-- What follows a part that was read from the front, unless the text stopped inside it. -/
abbrev Remainder (symbols : List Symbol) :=
  Option { rest : List Symbol // rest.length < symbols.length }

def Remainder.widen {fewer symbols : List Symbol} (h : fewer.length ≤ symbols.length)
    (remainder : Remainder fewer) : Remainder symbols :=
  remainder.map fun rest => ⟨rest.1, Nat.lt_of_lt_of_le rest.2 h⟩

def readWord (result : JsonSource) : List Char → (symbols : List Symbol) →
    JsonSource × Option { rest : List Symbol // rest.length ≤ symbols.length }
  | [], symbols => (result, some ⟨symbols, Nat.le_refl _⟩)
  | _ :: _, [] => (.broken (.both .endOfValue), none)
  | letter :: word, symbol :: rest =>
    if symbol = some letter then
      let (source, remainder) := readWord result word rest
      (source, remainder.map fun r => ⟨r.1, Nat.le_succ_of_le r.2⟩)
    else (.broken (.both .expectedWord), none)

def readString (symbols : List Symbol) :
    (Except JsonFault String × Remainder symbols) ⊕ JsonBreak :=
  match h : scanString symbols with
  | (pieces, .ok rest) =>
    .inl (stringOfPieces pieces, some ⟨rest, length_scanString_lt (by rw [h])⟩)
  | (pieces, .error stop) => .inr ⟨faultOfPieces pieces stop, stop⟩

def readNumber (negative : Bool) (symbols : List Symbol) : JsonSource × Remainder symbols :=
  match h : JsonNumeral.scanUnsigned negative symbols with
  | .ok (numeral, rest) =>
    (.number numeral.value, some ⟨rest, JsonNumeral.scanUnsigned_length h⟩)
  | .error stop => (.broken stop, none)

theorem lt_of_skipBlanks_eq_cons {symbols rest : List Symbol} {symbol : Symbol}
    (h : skipBlanks symbols = symbol :: rest) : rest.length < symbols.length := by
  have := length_skipBlanks_le symbols
  rw [h] at this
  exact this

mutual
def readValue (symbols : List Symbol) : JsonSource × Remainder symbols :=
  match h : skipBlanks symbols with
  | [] => (.broken (.both .endOfValue), none)
  | none :: _ => (.broken (.both .expectedValue), none)
  | some c :: rest =>
    have shorter : rest.length < symbols.length := lt_of_skipBlanks_eq_cons h
    if c = 'n' then
      let (source, remainder) := readWord .null "ull".toList rest
      (source, remainder.map fun r => ⟨r.1, Nat.lt_of_le_of_lt r.2 shorter⟩)
    else if c = 't' then
      let (source, remainder) := readWord (.boolean true) "rue".toList rest
      (source, remainder.map fun r => ⟨r.1, Nat.lt_of_le_of_lt r.2 shorter⟩)
    else if c = 'f' then
      let (source, remainder) := readWord (.boolean false) "alse".toList rest
      (source, remainder.map fun r => ⟨r.1, Nat.lt_of_le_of_lt r.2 shorter⟩)
    else if c = '-' then
      let (source, remainder) := readNumber true rest
      (source, remainder.widen (Nat.le_of_lt shorter))
    else if (digit? c).isSome then
      let (source, remainder) := readNumber false (some c :: rest)
      (source, remainder.widen (show (some c :: rest).length ≤ symbols.length from shorter))
    else if c = '"' then
      match readString rest with
      | .inl (text, remainder) => (.string text, remainder.widen (Nat.le_of_lt shorter))
      | .inr stop => (.broken stop, none)
    else if c = '[' then
      match hr : skipBlanks rest with
      | [] => (.list [] (.broken (.both .endOfList)), none)
      | some ']' :: after =>
        (.list [] .closed, some ⟨after, Nat.lt_trans (lt_of_skipBlanks_eq_cons hr) shorter⟩)
      | _ :: _ =>
        let (elements, ending, remainder) := readElements rest
        (.list elements ending, remainder.widen (Nat.le_of_lt shorter))
    else if c = '\x7b' then
      match hr : skipBlanks rest with
      | [] => (.object [] (.brokenKey (.both .endOfObject)), none)
      | some '\x7d' :: after =>
        (.object [] .closed, some ⟨after, Nat.lt_trans (lt_of_skipBlanks_eq_cons hr) shorter⟩)
      | some '"' :: after =>
        have shorter' : after.length < symbols.length :=
          Nat.lt_trans (lt_of_skipBlanks_eq_cons hr) shorter
        let (members, ending, remainder) := readMembers after
        (.object members ending, remainder.widen (Nat.le_of_lt shorter'))
      | _ :: _ => (.object [] (.brokenKey (.both .keyNotString)), none)
    else (.broken (.both .expectedValue), none)
termination_by (symbols.length, 0)
decreasing_by
  · exact Prod.Lex.left _ _ shorter
  · exact Prod.Lex.left _ _ shorter'

def readElements (symbols : List Symbol) :
    List JsonSource × ListEnding × Remainder symbols :=
  match readValue symbols with
  | (source, none) => ([source], .cut, none)
  | (source, some ⟨rest, shorter⟩) =>
    match h : skipBlanks rest with
    | [] => ([source], .broken (.both .endOfList), none)
    | some ']' :: after =>
      ([source], .closed, some ⟨after, Nat.lt_trans (lt_of_skipBlanks_eq_cons h) shorter⟩)
    | some ',' :: after =>
      have shorter' : after.length < symbols.length :=
        Nat.lt_trans (lt_of_skipBlanks_eq_cons h) shorter
      match skipBlanks after with
      | [] => ([source], .broken (.both .endOfValue), none)
      | some ']' :: _ => ([source], .broken ⟨.trailingComma, .expectedValue⟩, none)
      | _ :: _ =>
        let (elements, ending, remainder) := readElements after
        (source :: elements, ending, remainder.widen (Nat.le_of_lt shorter'))
    | _ :: _ => ([source], .broken (.both .expectedListEnd), none)
termination_by (symbols.length, 1)
decreasing_by
  · exact Prod.Lex.right _ (by decide)
  · exact Prod.Lex.left _ _ shorter'

/-- The members of an object, from after the quote that opens the first name. -/
def readMembers (symbols : List Symbol) :
    List (Except JsonFault String × JsonSource) × ObjectEnding × Remainder symbols :=
  match readString symbols with
  | .inr stop => ([], .brokenKey stop, none)
  | .inl (_, none) => ([], .cut, none)
  | .inl (name, some ⟨rest, shorter⟩) =>
    match h : skipBlanks rest with
    | [] => ([], .brokenColon name (.both .endOfObject), none)
    | some ':' :: after =>
      have shorter' : after.length < symbols.length :=
        Nat.lt_trans (lt_of_skipBlanks_eq_cons h) shorter
      match readValue after with
      | (source, none) => ([(name, source)], .cut, none)
      | (source, some ⟨rest, fewer⟩) =>
        have fewer' : rest.length < symbols.length := Nat.lt_trans fewer shorter'
        match h : skipBlanks rest with
        | [] => ([(name, source)], .brokenKey (.both .endOfObject), none)
        | some '\x7d' :: after =>
          ([(name, source)], .closed,
            some ⟨after, Nat.lt_trans (lt_of_skipBlanks_eq_cons h) fewer'⟩)
        | some ',' :: after =>
          have fewer'' : after.length < symbols.length :=
            Nat.lt_trans (lt_of_skipBlanks_eq_cons h) fewer'
          match h : skipBlanks after with
          | [] => ([(name, source)], .brokenKey ⟨.endOfValue, .endOfObject⟩, none)
          | some '"' :: after =>
            have last : after.length < symbols.length :=
              Nat.lt_trans (lt_of_skipBlanks_eq_cons h) fewer''
            let (members, ending, remainder) := readMembers after
            ((name, source) :: members, ending, remainder.widen (Nat.le_of_lt last))
          | some '\x7d' :: _ =>
            ([(name, source)], .brokenKey ⟨.trailingComma, .keyNotString⟩, none)
          | _ :: _ => ([(name, source)], .brokenKey (.both .keyNotString), none)
        | _ :: _ => ([(name, source)], .brokenKey (.both .expectedObjectEnd), none)
    | _ :: _ => ([], .brokenColon name (.both .expectedColon), none)
termination_by (symbols.length, 0)
decreasing_by
  · exact Prod.Lex.left _ _ shorter'
  · exact Prod.Lex.left _ _ last
end

/-- The value at the front of a text; anything may follow it. -/
def JsonSource.ofSymbols (symbols : List Symbol) : JsonSource :=
  (readValue symbols).1

def Json.ofSymbols (symbols : List Symbol) : Except JsonFault Json :=
  match readValue symbols with
  | (source, remainder) =>
    match source.value DepthBudget.ofText with
    | .error located => .error located.fault
    | .ok value =>
      match remainder with
      | none => .ok value
      | some rest => if (skipBlanks rest.1).isEmpty then .ok value else .error .trailingCharacters

def Json.ofText (text : String) : Except JsonFault Json :=
  Json.ofSymbols (symbolsOfText text)

end CheckedTypes
