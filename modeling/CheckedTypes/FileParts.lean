import CheckedTypes.Statement
import CheckedTypes.GenerateError
import CheckedTypes.GoSupport
import CheckedTypes.TypeScriptSupport

namespace CheckedTypes

/-- The sections of a file under construction. -/
structure FileParts where
  target : Target
  globals : CodeWriter
  declarations : CodeWriter
  /-- The validators, where they stand in a table of their own. -/
  checks : CodeWriter
  exported : List String := []

namespace FileParts

def empty (target : Target) : FileParts :=
  { target
    globals := { tab := target.tab }
    declarations := { tab := target.tab }
    checks := { tab := target.tab } }

/-- The members of an enumeration, each with its literal. Literals that render alike collide. -/
def enumMembers (ident : String) (seen : List String) :
    List String → Except GenerateError (List (String × String))
  | [] => .ok []
  | value :: rest =>
    let member := renderName value
    if seen.contains member then
      .error (.duplicateDefinition
        (ident ++ "." ++ member ++ " (enum value " ++ showQuoted value ++ ")"))
    else (enumMembers ident (member :: seen) rest).map ((member, value) :: ·)

def literalList (values : List String) : String :=
  Target.commaSeparated (values.map quote)

def root : Cursor :=
  ⟨Target.rootVariable, []⟩

def enumFailure (w : CodeWriter) (target : Target) (arguments : List String) : CodeWriter :=
  ((w.openBlock (target.ifHeader ("!" ++ Helper.enumeration.call target arguments))).line
    (target.failureText Reason.enumeration.text root)).closeBlock Target.blockEnd

def goDecodeMain (w : CodeWriter) : CodeWriter :=
  ((w.openBlock "if err := json.Unmarshal(buffer, &main); err != nil \x7b").line
    "return err").closeBlock Target.blockEnd

def goMethodStart (w : CodeWriter) (ident : String) : CodeWriter :=
  w.openBlock ("func (object *" ++ ident ++ ") UnmarshalJSON(buffer []byte) error \x7b")

def goMethodEnd (w : CodeWriter) (ident : String) : CodeWriter :=
  ((w.line ("*object = " ++ ident ++ "(main)")).line "return nil").closeBlock Target.blockEnd

def goEnum (w : CodeWriter) (ident : String) (members : List (String × String)) : CodeWriter :=
  let w := ((w.separate.line ("type " ++ ident ++ " string")).newline).openBlock "const ("
  let w := members.foldl
    (fun w (member, value) => w.line (ident ++ member ++ " " ++ ident ++ " = " ++ quote value)) w
  let w := (w.closeBlock ")").newline
  let w := (w.line ("var enumValues" ++ ident ++ " = []string\x7b" ++
    literalList (members.map Prod.snd) ++ "\x7d")).newline
  let w := goDecodeMain ((goMethodStart w ident).line "var main string")
  goMethodEnd (enumFailure w .go ["&main", "enumValues" ++ ident]) ident

/-- A name that needs no quotes as a member of an enumeration. -/
def isPlainMember (name : String) : Bool :=
  match name.toList with
  | [] => false
  | first :: rest =>
    (first.isAlpha || first == '_' || first == '$') &&
      rest.all fun c => c.isAlphanum || c == '_' || c == '$'

def typeScriptEnum (w : CodeWriter) (ident : String) (members : List (String × String)) :
    CodeWriter :=
  let w := w.separate.openBlock ("export enum " ++ ident ++ " \x7b")
  let w := members.foldl
    (fun w (member, value) =>
      w.line ((if isPlainMember member then member else quote member) ++ " = " ++ quote value ++
        ",")) w
  w.closeBlock Target.blockEnd

def checkStart (w : CodeWriter) (ident : String) : CodeWriter :=
  (w.openBlock (quote ident ++ ": function (main: any) \x7b")).line
    "if (main === undefined) return;"

def checkEnd (w : CodeWriter) : CodeWriter :=
  w.closeBlock "\x7d,"

def addEnum (file : FileParts) (ident : String) (values : List String) :
    Except GenerateError FileParts :=
  (enumMembers ident [] values).map fun members =>
    match file.target with
    | .go => { file with declarations := goEnum file.declarations ident members }
    | .typescript =>
      { file with
        declarations := typeScriptEnum file.declarations ident members
        checks := checkEnd (enumFailure (checkStart file.checks ident) .typescript
          ["main", "[" ++ literalList values ++ "]"]) }

def goValidator (w : CodeWriter) (ident validation : String) : CodeWriter :=
  let w := (goMethodStart w.newline ident).line "raw, err := decodeRaw(buffer)"
  let w := ((w.openBlock "if err != nil \x7b").line "return err").closeBlock Target.blockEnd
  let w := ((w.line "_ = raw").line ("type internal " ++ ident)).line "var main internal"
  goMethodEnd ((goDecodeMain w).embed validation) ident

def addType (file : FileParts) (ident declaration : String) (validation : Option String) :
    FileParts :=
  let declarations := file.declarations.separate.embed declaration
  match file.target, validation with
  | _, none => { file with declarations }
  | .go, some validation => { file with declarations := goValidator declarations ident validation }
  | .typescript, some validation =>
    { file with
      declarations
      checks := checkEnd ((checkStart file.checks ident).embed validation) }

def addGlobal (file : FileParts) (line : String) : FileParts :=
  { file with globals := file.globals.line line }

def addExport (file : FileParts) (ident : String) : FileParts :=
  { file with exported := file.exported ++ [ident] }

/-- A section after a blank line, unless it is empty. -/
def writeSection (w part : CodeWriter) : CodeWriter :=
  if part.isEmpty then w else w.newline.embed part.text

/-- The package of a module path is its last part. -/
def packageName (modulePath : String) : String :=
  let parts := splitOn '/' modulePath.toList
  match (parts.getLast?.getD []).map (fun c => if c = '-' ∨ c = '.' then '_' else c) with
  | [] => "schema"
  | name => String.ofList name

def notice : String :=
  "// Code generated by schema-codegen. DO NOT EDIT."

def goFile (file : FileParts) (modulePath : String) : CodeWriter :=
  let w := ((CodeWriter.line { tab := file.target.tab } notice).newline).line
    ("package " ++ packageName modulePath)
  let w := w.newline.openBlock "import ("
  let w := ["encoding/json", "fmt", "math", "reflect", "regexp"].foldl
    (fun w path => w.line (quote path)) w
  let w := ((w.closeBlock ")").newline).embed goSupport
  writeSection (writeSection w file.globals) file.declarations

def typeScriptFile (file : FileParts) (modulePath : String) : CodeWriter :=
  let w := (CodeWriter.line { tab := file.target.tab } notice).line ("// module: " ++ modulePath)
  let w := w.newline.embed typeScriptSupport
  let w := (writeSection (writeSection w file.globals) file.declarations).newline
  let w := (w.openBlock
    "const $checkTable: Record<string, ((main: any) => void) | undefined> = \x7b").embed
      file.checks.text
  let w := ((w.closeBlock "\x7d;").newline).openBlock "export interface $typelist \x7b"
  let w := file.exported.foldl (fun w ident => w.line (quote ident ++ ": " ++ ident ++ ";")) w
  let w := ((w.closeBlock Target.blockEnd).newline).openBlock
    ("export function decode<K extends keyof $typelist>(type: K, text: string): " ++
      "$typelist[K] \x7b")
  let w := (w.line "const main = JSON.parse(text);").line "$checkTable[type]?.(main);"
  (w.line "return main as $typelist[K];").closeBlock Target.blockEnd

def assemble (file : FileParts) (modulePath : String) : String :=
  match file.target with
  | .go => (file.goFile modulePath).text
  | .typescript => (file.typeScriptFile modulePath).text

end FileParts

end CheckedTypes
