import CheckedTypes.CommandRun
import CheckedTypes.FileTree
import CheckedTypes.Proofs.TableLookup

namespace CheckedTypes

namespace World

variable {α β : Type} {world : World}

/-! An action of the host sees the world and leaves another one behind. -/

@[simp]
theorem run_bind (action : StateM World α) (next : α → StateM World β) :
    (action >>= next).run world = (next (action.run world).1).run (action.run world).2 :=
  rfl

@[simp]
theorem run_printError (text : String) :
    (host.printError text).run world =
      ((), { world with errorOutput := world.errorOutput ++ text }) :=
  rfl

end World

namespace InputSettings

variable {settings : InputSettings}

/-- The text of the schema can be read: from the input or from a file. -/
def Reads (settings : InputSettings) (world : World) (text : String) : Prop :=
  if settings.input = "-" then String.fromUTF8? world.input = some text
  else world.tree.readFile settings.input = .ok text

/-- A pointer leads to a part of the value, of which a filter makes exactly one. -/
def Selects (settings : InputSettings) (value part : Json) : Prop :=
  ∃ pointed,
    (match settings.jsonPointer with
      | none => pointed = value
      | some pointer => value.pointer? pointer = some pointed) ∧
    match settings.jqExpr with
    | none => part = pointed
    | some filter => runFilter? filter pointed = some [part]

/-- The schema is read, parsed, selected and taken as a document. -/
def Loads (settings : InputSettings) (world : World) (document : SchemaDocument) : Prop :=
  ∃ text value part, settings.Reads world text ∧ Json.ofText text = .ok value ∧
    settings.Selects value part ∧ SchemaDocument.ofValue part = .ok document

end InputSettings

end CheckedTypes
