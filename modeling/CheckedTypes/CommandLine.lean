namespace CheckedTypes

structure InputSettings where
  jsonPointer : Option String
  jqExpr : Option String
  input : String

structure GenerateSettings where
  inputSettings : InputSettings
  rootType : Option String
  out : Option String
  noOp : Bool

structure CheckSettings where
  inputSettings : InputSettings
  rootType : Option String
  typeName : String
  instances : List String
  noOp : Bool

inductive Command where
  | go (settings : GenerateSettings) (package : String)
  | typescript (settings : GenerateSettings) (module : String)
  | check (settings : CheckSettings)

structure CommandLine where
  verbose : Nat
  command : Command

inductive UsageError where
  | displayHelp
  | displayVersion
  | displayHelpOnMissingArgumentOrSubcommand
  | missingSubcommand
  | missingRequiredArgument
  | unknownArgument
  | invalidValue
  | invalidSubcommand
  | argumentConflict
  | tooManyValues
deriving DecidableEq

inductive OptionKey where
  | verbose | help | version
  | jsonPointer | jqExpr | input | rootType | noOp
  | out | package | module | typeName | instances
deriving DecidableEq

inductive OptionArity where
  | immediate
  | counted
  | flag
  | single
  | several
deriving DecidableEq

structure OptionForm where
  key : OptionKey
  long : String
  short : Option Char := none
  arity : OptionArity := .single

def OptionForm.takesValue (form : OptionForm) : Bool :=
  form.arity == .single || form.arity == .several

inductive CommandName where
  | go
  | typescript
  | check
deriving DecidableEq

def CommandName.ofText? (text : String) : Option CommandName :=
  if text = "go" then some go
  else if text = "typescript" then some typescript
  else if text = "check" then some check
  else none

namespace OptionForm

def verbose : OptionForm := ⟨.verbose, "verbose", some 'v', .counted⟩
def help : OptionForm := ⟨.help, "help", some 'h', .immediate⟩

def general : List OptionForm :=
  [verbose, help, ⟨.version, "version", some 'V', .immediate⟩]

def shared : List OptionForm :=
  [verbose, help, ⟨.jsonPointer, "json-pointer", none, .single⟩,
   ⟨.jqExpr, "jq-expr", none, .single⟩, ⟨.input, "input", some 'i', .single⟩,
   ⟨.rootType, "root-type", none, .single⟩, ⟨.noOp, "no-op", none, .flag⟩]

def ofCommand : CommandName → List OptionForm
  | .go => shared ++ [⟨.out, "out", some 'o', .single⟩, ⟨.package, "package", none, .single⟩]
  | .typescript => shared ++ [⟨.out, "out", some 'o', .single⟩, ⟨.module, "module", none, .single⟩]
  | .check =>
    shared ++ [⟨.typeName, "type", none, .single⟩, ⟨.instances, "instance", none, .several⟩]

end OptionForm

/-- The options read so far. An option whose values may still follow is only settled by the next
one. -/
structure GivenOptions where
  settled : List (OptionKey × List String) := []
  pending : Option (OptionForm × List String) := none
  /-- Whether the next argument is a value of the pending option. -/
  expecting : Bool := false
  verbose : Nat := 0

namespace GivenOptions

def values? (given : GivenOptions) (key : OptionKey) : Option (List String) :=
  given.settled.lookup key

def value? (given : GivenOptions) (key : OptionKey) : Option String :=
  (given.values? key).bind List.head?

/-- Takes an option with all its values. Only instances may be given again, and a file name is not
empty. -/
def record (given : GivenOptions) (form : OptionForm) (values : List String) :
    Except UsageError GivenOptions :=
  if form.takesValue && values.isEmpty then .error .invalidValue
  else
    match given.values? form.key with
    | some before =>
      if form.arity = .several then
        .ok { given with
          settled := given.settled.map fun (key, old) =>
            if key = form.key then (key, before ++ values) else (key, old) }
      else .error .argumentConflict
    | none =>
      if form.key = .out && values.contains "" then .error .invalidValue
      else .ok { given with settled := given.settled ++ [(form.key, values)] }

def settle (given : GivenOptions) : Except UsageError GivenOptions :=
  match given.pending with
  | none => .ok { given with expecting := false }
  | some (form, values) => { given with pending := none, expecting := false }.record form values

def takeFlag (given : GivenOptions) (form : OptionForm) : Except UsageError GivenOptions :=
  given.settle.bind fun given =>
    match form.arity with
    | .immediate => .error (if form.key = .version then .displayVersion else .displayHelp)
    | .counted => .ok { given with verbose := min (given.verbose + 1) 255 }
    | _ => given.record form []

def takeOption (given : GivenOptions) (form : OptionForm) (attached : Option String) :
    Except UsageError GivenOptions :=
  given.settle.bind fun given =>
    match attached with
    | some value => given.record form [value]
    | none => .ok { given with pending := some (form, []), expecting := true }

def takeLong (given : GivenOptions) (forms : List OptionForm) (argument : List Char) :
    Except UsageError GivenOptions :=
  let name := String.ofList (argument.takeWhile (· != '='))
  let attached := match argument.dropWhile (· != '=') with
    | _ :: value => some (String.ofList value)
    | [] => none
  match forms.find? (·.long == name) with
  | none => .error .unknownArgument
  | some form =>
    if form.takesValue then given.takeOption form attached
    else if attached.isSome then .error .tooManyValues
    else given.takeFlag form

/-- Takes the options of a cluster of letters; what follows an option that asks for values is its
value. -/
def takeShort (given : GivenOptions) (forms : List OptionForm) :
    List Char → Except UsageError GivenOptions
  | [] => .ok given
  | letter :: rest =>
    match forms.find? (·.short == some letter) with
    | none => .error .unknownArgument
    | some form =>
      if form.takesValue then
        given.takeOption form <|
          match rest with
          | [] => none
          | '=' :: value => some (String.ofList value)
          | value => some (String.ofList value)
      else
        match given.takeFlag form with
        | .error fault => .error fault
        | .ok given => given.takeShort forms rest

def takeValue (given : GivenOptions) (value : String) : GivenOptions :=
  match given.pending with
  | none => given
  | some (form, values) =>
    { given with pending := some (form, values ++ [value]), expecting := form.arity == .several }

end GivenOptions

inductive ArgumentShape where
  | escape
  | long (text : List Char)
  | short (letters : List Char)
  | plain

def ArgumentShape.ofText (text : String) : ArgumentShape :=
  match text.toList with
  | ['-', '-'] => escape
  | '-' :: '-' :: rest => long rest
  | '-' :: c :: rest => short (c :: rest)
  | _ => plain

def readOptions (forms : List OptionForm) (given : GivenOptions) :
    List String → Except UsageError GivenOptions
  | [] => given.settle
  | argument :: rest =>
    match ArgumentShape.ofText argument with
    | .escape => if rest.isEmpty then given.settle else .error .unknownArgument
    | .long text =>
      match given.takeLong forms text with
      | .error fault => .error fault
      | .ok given => readOptions forms given rest
    | .short letters =>
      match given.takeShort forms letters with
      | .error fault => .error fault
      | .ok given => readOptions forms given rest
    | .plain =>
      if given.expecting then readOptions forms (given.takeValue argument) rest
      else .error .unknownArgument

namespace GivenOptions

def require (given : GivenOptions) (key : OptionKey) : Except UsageError String :=
  match given.value? key with
  | none => .error .missingRequiredArgument
  | some value => .ok value

def inputSettings (given : GivenOptions) : Except UsageError InputSettings :=
  (given.require .input).map fun input =>
    { jsonPointer := given.value? .jsonPointer, jqExpr := given.value? .jqExpr, input }

def noOp (given : GivenOptions) : Bool :=
  (given.values? .noOp).isSome

def generateSettings (given : GivenOptions) : Except UsageError GenerateSettings :=
  given.inputSettings.map fun inputSettings =>
    { inputSettings
      rootType := given.value? .rootType
      out := given.value? .out
      noOp := given.noOp }

def checkSettings (given : GivenOptions) : Except UsageError CheckSettings := do
  let inputSettings ← given.inputSettings
  let typeName ← given.require .typeName
  let _ ← given.require .instances
  return {
    inputSettings, typeName
    rootType := given.value? .rootType
    instances := (given.values? .instances).getD []
    noOp := given.noOp }

def command (given : GivenOptions) : CommandName → Except UsageError Command
  | .go => given.generateSettings.map fun settings =>
    .go settings ((given.value? .package).getD "schema")
  | .typescript => given.generateSettings.map fun settings =>
    .typescript settings ((given.value? .module).getD "schema")
  | .check => given.checkSettings.map .check

end GivenOptions

namespace CommandLine

def helpOutcome : List String → UsageError
  | [] => .displayHelp
  | [name] =>
    if name = "help" ∨ (CommandName.ofText? name).isSome then .displayHelp else .invalidSubcommand
  | _ => .invalidSubcommand

/-- Flags behind a command count for themselves and replace those before it. -/
def ofCommandArguments (general : GivenOptions) (name : CommandName) (arguments : List String) :
    Except UsageError CommandLine := do
  let given ← readOptions (OptionForm.ofCommand name) {} arguments
  let command ← given.command name
  return { verbose := if given.verbose = 0 then general.verbose else given.verbose, command }

def missingCommand (general : GivenOptions) : UsageError :=
  if general.verbose = 0 then .displayHelpOnMissingArgumentOrSubcommand else .missingSubcommand

def readGeneral (general : GivenOptions) : List String → Except UsageError CommandLine
  | [] => .error (missingCommand general)
  | argument :: rest =>
    match CommandName.ofText? argument with
    | some name => ofCommandArguments general name rest
    | none =>
      if argument = "help" then .error (helpOutcome rest)
      else
        match ArgumentShape.ofText argument with
        | .escape =>
          match rest with
          | [] => .error (missingCommand general)
          | next :: _ =>
            .error (if next = "help" ∨ (CommandName.ofText? next).isSome then .unknownArgument
              else .invalidSubcommand)
        | .long text =>
          match general.takeLong OptionForm.general text with
          | .error fault => .error fault
          | .ok general => readGeneral general rest
        | .short letters =>
          match general.takeShort OptionForm.general letters with
          | .error fault => .error fault
          | .ok general => readGeneral general rest
        | .plain => .error .invalidSubcommand

def ofArguments (arguments : List String) : Except UsageError CommandLine :=
  readGeneral {} arguments

end CommandLine

end CheckedTypes
