import CheckedTypes.CommandLine
import CheckedTypes.EscapedText

namespace CheckedTypes

/-- A value as a reader sees it: a word, a text or named parts, one a line. -/
inductive Outline where
  | word (text : String)
  | wrapped (opening closing : String) (parts : List Outline)
  | labelled (label : String) (part : Outline)

namespace Outline

mutual
def lines : Outline → List String
  | .word text => [text]
  | .wrapped opening closing [] => [opening ++ closing]
  | .wrapped opening closing parts => opening :: (partLines parts ++ [closing])
  | .labelled label part =>
    match part.lines with
    | [] => [label ++ ": "]
    | first :: rest => (label ++ ": " ++ first) :: rest
/-- The parts are indented, and each ends with a comma. -/
def partLines : List Outline → List String
  | [] => []
  | part :: rest => (withComma part.lines).map ("    " ++ ·) ++ partLines rest
where
  withComma : List String → List String
    | [] => []
    | [last] => [last ++ ","]
    | line :: rest => line :: withComma rest
end

def text (outline : Outline) : String :=
  "\n".intercalate outline.lines

def ofString (s : String) : Outline :=
  .word (showQuoted s)

def ofPath (path : String) : Outline :=
  .word (showQuotedPath path)

def ofFlag (b : Bool) : Outline :=
  .word (if b then "true" else "false")

def ofOption : Option Outline → Outline
  | none => .word "None"
  | some part => .wrapped "Some(" ")" [part]

def ofList (texts : List String) : Outline :=
  .wrapped "[" "]" (texts.map ofString)

def group (name : String) (part : Outline) : Outline :=
  .wrapped (name ++ "(") ")" [part]

def fields (name : String) (parts : List (String × Outline)) : Outline :=
  .wrapped (name ++ " \x7b") "\x7d" (parts.map fun (label, part) => .labelled label part)

end Outline

open Outline

def InputSettings.outline (settings : InputSettings) : Outline :=
  fields "InputSettings"
    [("json_pointer", ofOption (settings.jsonPointer.map ofString)),
     ("jq_expr", ofOption (settings.jqExpr.map ofString)), ("input", ofString settings.input)]

def GenerateSettings.outline (settings : GenerateSettings) : Outline :=
  fields "GenerateSettings"
    [("input_settings", settings.inputSettings.outline),
     ("root_type", ofOption (settings.rootType.map ofString)),
     ("out", ofOption (settings.out.map ofPath)), ("no_op", ofFlag settings.noOp)]

def CheckSettings.outline (settings : CheckSettings) : Outline :=
  fields "CheckIn"
    [("input_settings", settings.inputSettings.outline),
     ("root_type", ofOption (settings.rootType.map ofString)),
     ("type_name", ofString settings.typeName),
     ("instance", .ofList settings.instances), ("no_op", ofFlag settings.noOp)]

def Command.outline : Command → Outline
  | go settings package =>
    group "Go" (fields "GoOut"
      [("settings", settings.outline), ("package", ofString package)])
  | typescript settings module =>
    group "Typescript" (fields "TypeScriptOut"
      [("settings", settings.outline), ("module", ofString module)])
  | check settings => group "Check" settings.outline

def CommandLine.outline (line : CommandLine) : Outline :=
  fields "CommandLineInterface"
    [("verbose", .word (toString line.verbose)), ("cmd", line.command.outline)]

end CheckedTypes
