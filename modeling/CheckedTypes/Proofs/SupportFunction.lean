import CheckedTypes.GoSupport
import CheckedTypes.Statement
import CheckedTypes.TypeScriptSupport
import CheckedTypes.Proofs.NumeralText
import CheckedTypes.Proofs.ValidatorRun

namespace CheckedTypes

/-- What a function of the support text gives names to. -/
inductive Variable where
  | value
  | min
  | max
  | hasMin
  | hasMax
  | exMin
  | exMax
  | multiple
  | useMultiple
  | unique
  | number
  | length
deriving DecidableEq

def Variable.name : Variable → String
  | value => "value"
  | min => "min"
  | max => "max"
  | hasMin => "hasMin"
  | hasMax => "hasMax"
  | exMin => "exMin"
  | exMax => "exMax"
  | multiple => "multiple"
  | useMultiple => "useMultiple"
  | unique => "unique"
  | number => "number"
  | length => "length"

/-- An expression for a number. The value that is checked may have to be converted to one. -/
inductive Term where
  | read (name : Variable)
  | zero
  | checked (converted : Bool)
  | characters
  | elements
  | remainder (dividend divisor : Term)

def Term.text (target : Target) : Term → String
  | read name => name.name
  | zero => "0"
  | checked converted =>
    match target, converted with
    | .go, false => "*value"
    | .go, true => "float64(*value)"
    | .typescript, _ => "value"
  | characters =>
    match target with
    | .go => "float64(len([]rune(*value)))"
    | .typescript => "Array.from(value).length"
  | elements =>
    match target with
    | .go => "float64(array.Len())"
    | .typescript => "value.length"
  | remainder dividend divisor =>
    match target with
    | .go => "math.Mod(" ++ dividend.text target ++ ", " ++ divisor.text target ++ ")"
    | .typescript => dividend.text target ++ " % " ++ divisor.text target

/-- A condition. Those on the kind of the checked value are asked in one of the languages only. -/
inductive Test where
  | constant (b : Bool)
  | flag (name : Variable)
  | less (left right : Term)
  | greater (left right : Term)
  | equals (left right : Term)
  | missing
  | noNumber
  | noInteger
  | noText
  | noArray
  | noSlice
  | not (test : Test)
  | both (left right : Test)
  | either (left right : Test)
  | inBounds (number : Term) (exMin exMax : Test)

namespace Test

def isCompound : Test → Bool
  | both _ _ | either _ _ => true
  | _ => false

def grouped (test : Test) (text : String) : String :=
  if test.isCompound then "(" ++ text ++ ")" else text

def text (target : Target) : Test → String
  | constant b => flagLiteral b
  | flag name => name.name
  | less left right => left.text target ++ " < " ++ right.text target
  | greater left right => left.text target ++ " > " ++ right.text target
  | equals left right =>
    left.text target ++ (match target with | .go => " == " | .typescript => " === ") ++
      right.text target
  | missing => match target with | .go => "value == nil" | .typescript => "!isPresent(value)"
  | noNumber => "typeof value !== \"number\""
  | noInteger => "!Number.isInteger(value)"
  | noText => "typeof value !== \"string\""
  | noArray => "!Array.isArray(value)"
  | noSlice => "array.Kind() != reflect.Slice"
  | not test => "!" ++ test.text target
  | both left right => left.grouped (left.text target) ++ " && " ++ right.grouped (right.text target)
  | either left right =>
    left.grouped (left.text target) ++ " || " ++ right.grouped (right.text target)
  | inBounds number exMin exMax =>
    "boundsValidation(" ++ Target.commaSeparated [number.text target, "min", "max", "hasMin",
      "hasMax", exMin.text target, exMax.text target] ++ ")"

end Test

/-- A step of a function. -/
inductive Step where
  | answerIf (test : Test) (answer : Bool)
  | define (name : Variable) (term : Term)
  | reflect
  | compareElements
  | answer (test : Test)

def Step.lines : Target → Step → List String
  | .go, answerIf test result =>
    ["\tif " ++ test.text .go ++ " \x7b", "\t\treturn " ++ flagLiteral result, "\t\x7d"]
  | .typescript, answerIf test result =>
    ["    if (" ++ test.text .typescript ++ ") return " ++ flagLiteral result ++ ";"]
  | .go, define name term => ["\t" ++ name.name ++ " := " ++ term.text .go]
  | .typescript, define name term =>
    ["    const " ++ name.name ++ " = " ++ term.text .typescript ++ ";"]
  | .go, reflect => ["\tarray := reflect.ValueOf(value)"]
  | .typescript, reflect => []
  | .go, compareElements =>
    ["\tif unique \x7b",
     "\t\tfor i := 0; i < array.Len(); i++ \x7b",
     "\t\t\tfor j := 0; j < i; j++ \x7b",
     "\t\t\t\tif reflect.DeepEqual(array.Index(i).Interface(), array.Index(j).Interface()) \x7b",
     "\t\t\t\t\treturn false",
     "\t\t\t\t\x7d",
     "\t\t\t\x7d",
     "\t\t\x7d",
     "\t\x7d"]
  | .typescript, compareElements =>
    ["    if (unique) \x7b",
     "        const seen = new Set<string>();",
     "        for (const item of value) \x7b",
     "            const key = JSON.stringify(item);",
     "            if (seen.has(key)) return false;",
     "            seen.add(key);",
     "        \x7d",
     "    \x7d"]
  | .go, answer test => ["\treturn " ++ test.text .go]
  | .typescript, answer test => ["    return " ++ test.text .typescript ++ ";"]

/-- What a parameter takes. Go gives the type of the value that is checked. -/
inductive Kind where
  | number
  | flag
  | value (type : String)

def Kind.text : Target → Kind → String
  | .go, number => "float64"
  | .go, flag => "bool"
  | .go, value type => type
  | .typescript, number => "number"
  | .typescript, flag => "boolean"
  | .typescript, value _ => "any"

/-- A function of the support text; parameters of one type are listed together. -/
structure SupportFunction where
  name : String
  parameters : List (List Variable × Kind)
  steps : List Step

namespace SupportFunction

def header : Target → SupportFunction → String
  | .go, function =>
    "func " ++ function.name ++ "(" ++ Target.commaSeparated (function.parameters.map
      fun (names, kind) => Target.commaSeparated (names.map Variable.name) ++ " " ++ kind.text .go) ++
      ") bool \x7b"
  | .typescript, function =>
    "function " ++ function.name ++ "(" ++ Target.commaSeparated (function.parameters.flatMap
      fun (names, kind) => names.map fun name => name.name ++ ": " ++ kind.text .typescript) ++
      "): boolean \x7b"

def lines (target : Target) (function : SupportFunction) : List String :=
  function.header target :: function.steps.flatMap (Step.lines target) ++ ["\x7d"]

end SupportFunction

/-- Whether a number is within its bounds. -/
def boundsFunction : SupportFunction where
  name := "boundsValidation"
  parameters := [([.value, .min, .max], .number), ([.hasMin, .hasMax, .exMin, .exMax], .flag)]
  steps :=
    [.answerIf (.both (.flag .hasMin) (.either (.less (.read .value) (.read .min))
      (.both (.flag .exMin) (.equals (.read .value) (.read .min))))) false,
     .answerIf (.both (.flag .hasMax) (.either (.greater (.read .value) (.read .max))
      (.both (.flag .exMax) (.equals (.read .value) (.read .max))))) false,
     .answer (.constant true)]

namespace SupportFunction

def numericParameters (type : String) : List (List Variable × Kind) :=
  [([.min, .max], .number), ([.hasMin, .hasMax, .exMin, .exMax], .flag), ([.multiple], .number),
   ([.useMultiple], .flag), ([.value], .value type)]

/-- The steps that check a number, which a term gives. -/
def numericSteps (number : Term) : List Step :=
  [.answerIf (.not (.inBounds number (.flag .exMin) (.flag .exMax))) false,
   .answer (.either (.not (.flag .useMultiple))
     (.equals (.remainder number (.read .multiple)) .zero))]

def number (target : Target) : SupportFunction where
  name := Helper.number.name target
  parameters := numericParameters "*float64"
  steps :=
    match target with
    | .go => .answerIf .missing true :: numericSteps (.checked false)
    | .typescript =>
      .answerIf .missing true :: .answerIf .noNumber false :: numericSteps (.checked false)

def integer (target : Target) : SupportFunction where
  name := Helper.integer.name target
  parameters := numericParameters "*int"
  steps :=
    match target with
    | .go =>
      .answerIf .missing true :: .define .number (.checked true) ::
        numericSteps (.read .number)
    | .typescript =>
      .answerIf .missing true :: .answerIf (.either .noNumber .noInteger) false ::
        numericSteps (.checked false)

def string (target : Target) : SupportFunction where
  name := Helper.string.name target
  parameters := [([.min, .max], .number), ([.hasMin, .hasMax], .flag), ([.value], .value "*string")]
  steps :=
    match target with
    | .go =>
      [.answerIf .missing true, .define .length .characters,
       .answer (.inBounds (.read .length) (.constant false) (.constant false))]
    | .typescript =>
      [.answerIf .missing true, .answerIf .noText false,
       .answer (.inBounds .characters (.constant false) (.constant false))]

/-- The steps that check how many elements there are and compare them to each other. -/
def elementSteps : List Step :=
  [.answerIf (.not (.inBounds .elements (.constant false) (.constant false))) false,
   .compareElements, .answer (.constant true)]

def array (target : Target) : SupportFunction where
  name := Helper.array.name target
  parameters := [([.min, .max], .number), ([.hasMin, .hasMax, .unique], .flag),
    ([.value], .value "interface\x7b\x7d")]
  steps :=
    match target with
    | .go => .reflect :: .answerIf .noSlice false :: elementSteps
    | .typescript => .answerIf .missing true :: .answerIf .noArray false :: elementSteps

def called (function : SupportFunction) (arguments : List String) : String :=
  function.name ++ "(" ++ Target.commaSeparated arguments ++ ")"

end SupportFunction

/-- The declarations that every file carries. -/
def Target.supportLines : Target → List String
  | .go => goSupportLines
  | .typescript => typeScriptSupportLines

/-- The lines of a text from one of them on, as many as there are in a part, are a part. -/
theorem infix_of_dropWhile (first : String) {part whole : List String}
    (h : part = (whole.dropWhile (· != first)).take part.length) : part <:+: whole := by
  rw [h]
  exact (List.take_prefix _ _).isInfix.trans (List.dropWhile_suffix _).isInfix

/-- The functions are the ones of the support text. -/
def supportFunctions (target : Target) : List SupportFunction :=
  [boundsFunction, .integer target, .number target, .string target, .array target]

set_option maxRecDepth 2000 in
theorem supportFunctions_written (target : Target) :
    ∀ function ∈ supportFunctions target, function.lines target <:+: target.supportLines := by
  intro function hf
  apply infix_of_dropWhile (function.header target)
  cases target with
  | go => fin_cases hf <;> rfl
  | typescript => fin_cases hf <;> rfl

/-- The checks that are emitted call the functions, the value as the last argument. -/
theorem support_functions_called (target : Target) (cursor : Cursor) (optional : Bool) :
    (∀ constraints, (Predicate.number constraints cursor optional).text target =
      (SupportFunction.number target).called
        (constraints.arguments ++ [target.valueArgument cursor .number optional])) ∧
    (∀ constraints, (Predicate.integer constraints cursor optional).text target =
      (SupportFunction.integer target).called
        (constraints.arguments ++ [target.valueArgument cursor .integer optional])) ∧
    (∀ constraints, (Predicate.length constraints cursor optional).text target =
      (SupportFunction.string target).called
        (constraints.arguments ++ [target.valueArgument cursor .string optional])) ∧
    ∀ constraints, (Predicate.array constraints cursor).text target =
      (SupportFunction.array target).called (constraints.arguments ++ [target.expression cursor]) :=
  ⟨fun _ => rfl, fun _ => rfl, fun _ => rfl, fun _ => rfl⟩

end CheckedTypes
