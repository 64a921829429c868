import CheckedTypes.CommandDump
import CheckedTypes.DocumentReader
import CheckedTypes.FileSearch
import CheckedTypes.FilterReader
import CheckedTypes.InstanceCheck
import CheckedTypes.SourceFile

namespace CheckedTypes

inductive CommandError where
  | unreadableInput (fault : FileFault)
  | unreadableSchema (path : String) (fault : FileFault)
  | malformedSchema (path : String) (fault : JsonFault)
  | nothingSelected (pointer path : String)
  | filterFailed (path : String)
  | notOneDocument (count : Nat)
  | invalidSchema (path : String) (fault : GenerateError)
  | notGenerated (fault : GenerateError)
  | uncreatable (path : String) (fault : FileFault)
  | unwritable (path : String) (fault : FileFault)
  | badPattern (pattern : String) (fault : GlobFault)
  | noMatches (pattern : String)
  | failedInstances (failed total : Nat) (typeName : String)

inductive InstanceError where
  | unreadable (path : String) (fault : FileFault)
  | malformed (fault : JsonFault)
  | refused (fault : CheckError)

def InstanceError.message : InstanceError → String
  | unreadable path fault => "failed to read instance file (" ++ path ++ "): " ++ fault.message
  | malformed fault => "instance is not valid JSON: " ++ fault.message
  | refused fault => fault.message

def CommandError.message : CommandError → String
  | unreadableInput fault => "failed to read schema from stdin: " ++ fault.message
  | unreadableSchema path fault => "failed to read schema file (" ++ path ++ "): " ++ fault.message
  | malformedSchema path fault =>
    "failed to parse JSON schema file (" ++ path ++ "): " ++ fault.message
  | nothingSelected pointer path => "JSON pointer " ++ pointer ++ " selects nothing in " ++ path
  | filterFailed path => "failed to apply jq expression to " ++ path
  | notOneDocument count =>
    "jq expression must yield exactly one schema document, got " ++ toString count
  | invalidSchema path fault => "invalid schema (" ++ path ++ "): " ++ fault.message
  | notGenerated fault => fault.message
  | uncreatable path fault => "failed to create " ++ path ++ ": " ++ fault.message
  | unwritable path fault => "failed to write " ++ path ++ ": " ++ fault.message
  | badPattern pattern fault => "bad glob pattern: " ++ pattern ++ ": " ++ fault.message
  | noMatches pattern => "glob pattern matched no files: " ++ pattern
  | failedInstances failed total typeName =>
    toString failed ++ " of " ++ toString total ++ " instances failed " ++ typeName

namespace InputSettings

def selectPart (settings : InputSettings) (value : Json) : Except CommandError Json := do
  let value ←
    match settings.jsonPointer with
    | none => pure value
    | some pointer =>
      match value.pointer? pointer with
      | none => throw (.nothingSelected pointer settings.input)
      | some part => pure part
  match settings.jqExpr with
  | none => return value
  | some filter =>
    match runFilter? filter value with
    | none => throw (.filterFailed settings.input)
    | some [part] => return part
    | some parts => throw (.notOneDocument parts.length)

def document (settings : InputSettings) (text : String) : Except CommandError SchemaDocument := do
  match Json.ofText text with
  | .error fault => throw (.malformedSchema settings.input fault)
  | .ok value =>
    let part ← settings.selectPart value
    (SchemaDocument.ofValue part).mapError (.invalidSchema settings.input)

end InputSettings

def GenerateSettings.source (settings : GenerateSettings) (target : Target) (modulePath : String)
    (text : String) : Except CommandError String := do
  let document ← settings.inputSettings.document text
  (document.generate target { root := settings.rootType, modulePath }).mapError .notGenerated

def CheckSettings.table (settings : CheckSettings) (text : String) :
    Except CommandError TypeTable := do
  let document ← settings.inputSettings.document text
  (document.toTypeTable settings.rootType).mapError .notGenerated

def TypeTable.checkText (table : TypeTable) (typeName text : String) :
    Except InstanceError Unit :=
  match Json.ofText text with
  | .error fault => .error (.malformed fault)
  | .ok value => (table.check typeName value).mapError .refused

/-- The directories above a path as it is written, the nearest first; a single name has none. Empty
parts and dots inside of the path name nothing of their own. -/
def parentPaths (path : String) : List String :=
  let parts := pathParts path
  let named := parts.zipIdx.filter fun (part, n) => part != "" && (part != "." || n == 0)
  named.dropLast.reverse.map fun (_, n) => "/".intercalate (parts.take (n + 1))

variable {m : Type → Type} [Monad m]

def createDirectories (host : Host m) : List String → m (Except FileFault Unit)
  | [] => return .ok ()
  | path :: above => do
    match ← host.createDirectory path with
    | .ok _ => return .ok ()
    | .error .missing =>
      match ← createDirectories host above with
      | .error fault => return .error fault
      | .ok _ => settle path (← host.createDirectory path)
    | .error fault => settle path (.error fault)
where
  settle (path : String) (result : Except FileFault Unit) : m (Except FileFault Unit) := do
    match result with
    | .ok _ => return .ok ()
    | .error fault =>
      if ← host.isDirectory path then return .ok () else return .error fault

def writeSource (host : Host m) (out : Option String) (source : String) :
    m (Except CommandError Unit) := do
  match out with
  | none =>
    host.print source
    return .ok ()
  | some path =>
    let parents := parentPaths path
    match ← createDirectories host parents with
    | .error fault => return .error (.uncreatable (parents.headD "") fault)
    | .ok _ => return (← host.writeFile path source).mapError (.unwritable path)

/-- The text of a schema; a hyphen stands for the input. -/
def InputSettings.read (settings : InputSettings) (host : Host m) :
    m (Except CommandError String) := do
  if settings.input = "-" then return (← host.readInput).mapError .unreadableInput
  else return (← host.readFile settings.input).mapError (.unreadableSchema settings.input)

/-- Generates a file. Nothing is written before all of it is there. -/
def GenerateSettings.run (settings : GenerateSettings) (host : Host m) (target : Target)
    (modulePath : String) : m (Except CommandError Unit) := do
  match ← settings.inputSettings.read host with
  | .error fault => return .error fault
  | .ok text =>
    match settings.source target modulePath text with
    | .error fault => return .error fault
    | .ok source => writeSource host settings.out source

/-- The paths of instances, those of patterns in the order of the search. -/
def instancePaths (host : Host m) : List String → m (Except CommandError (List String))
  | [] => return .ok []
  | text :: rest => do
    if hasGlobChars text then
      match PathPattern.ofText text with
      | .error fault => return .error (.badPattern text fault)
      | .ok pattern =>
        match ← pattern.search host with
        | [] => return .error (.noMatches text)
        | found => return (← instancePaths host rest).map (found ++ ·)
    else return (← instancePaths host rest).map (text :: ·)

def checkFile (host : Host m) (table : TypeTable) (typeName path : String) :
    m (Except InstanceError Unit) := do
  match ← host.readFile path with
  | .error fault => return .error (.unreadable path fault)
  | .ok text => return table.checkText typeName text

def checkFiles (host : Host m) (table : TypeTable) (typeName : String) :
    List String → m (List (String × Except InstanceError Unit))
  | [] => return []
  | path :: rest => do
    let outcome ← checkFile host table typeName path
    return (path, outcome) :: (← checkFiles host table typeName rest)

def reportLine (path : String) : Except InstanceError Unit → String
  | .ok _ => "ok " ++ path ++ "\n"
  | .error fault => "FAIL " ++ path ++ ": " ++ fault.message ++ "\n"

def printReport (host : Host m) : List (String × Except InstanceError Unit) → m Unit
  | [] => return ()
  | (path, outcome) :: rest => do
    host.print (reportLine path outcome)
    printReport host rest

def failureCount (outcomes : List (String × Except InstanceError Unit)) : Nat :=
  outcomes.countP fun (_, outcome) => outcome matches .error _

def CheckSettings.run (settings : CheckSettings) (host : Host m) :
    m (Except CommandError Unit) := do
  match ← settings.inputSettings.read host with
  | .error fault => return .error fault
  | .ok text =>
    match settings.table text with
    | .error fault => return .error fault
    | .ok table =>
      match ← instancePaths host settings.instances with
      | .error fault => return .error fault
      | .ok paths =>
        let outcomes ← checkFiles host table settings.typeName paths
        printReport host outcomes
        let failed := failureCount outcomes
        if failed = 0 then return .ok ()
        else return .error (.failedInstances failed outcomes.length settings.typeName)

namespace CommandLine

def noOp (line : CommandLine) : Bool :=
  match line.command with
  | .go settings _ => settings.noOp
  | .typescript settings _ => settings.noOp
  | .check settings => settings.noOp

def run (line : CommandLine) (host : Host m) : m (Except CommandError Unit) := do
  if line.noOp then
    host.printError (line.outline.text ++ "\n")
    return .ok ()
  else
    match line.command with
    | .go settings package => settings.run host .go package
    | .typescript settings modulePath => settings.run host .typescript modulePath
    | .check settings => settings.run host

end CommandLine

end CheckedTypes
