import CheckedTypes.Proofs.FaultText
import CheckedTypes.Proofs.FileWrite
import CheckedTypes.Proofs.InstancePaths

namespace CheckedTypes

/-- The schema is loaded and makes a table of types. -/
def CheckSettings.Tabulates (settings : CheckSettings) (world : World) (table : TypeTable) : Prop :=
  ∃ document, settings.inputSettings.Loads world document ∧
    document.toTypeTable settings.rootType = .ok table

theorem CheckSettings.Tabulates.meaningful {settings : CheckSettings} {world : World}
    {table : TypeTable} (h : settings.Tabulates world table) :
    ∀ entry ∈ table.entries, entry.node.Meaningful := by
  obtain ⟨document, -, flat⟩ := h
  exact fun entry hm => SchemaDocument.meaningful_toTypeTable flat hm

/-- What is told about one instance, without the line break behind it. -/
def reportText (path : String) : Except InstanceError Unit → String
  | .ok _ => "ok " ++ path
  | .error fault => "FAIL " ++ path ++ ": " ++ fault.message

def isFailure (report : String) : Bool :=
  "FAIL ".toList.isPrefixOf report.toList

@[simp]
theorem isFailure_reportText (path : String) (outcome : Except InstanceError Unit) :
    isFailure (reportText path outcome) = (outcome matches .error _) := by
  unfold isFailure reportText
  cases outcome <;> simp [String.toList_append, List.isPrefixOf_cons_cons]

namespace TypeTable

variable {table : TypeTable} {typeName : String} {world : World}

/-- The file under a path can be read and holds one value, which is of the type. -/
def Passes (table : TypeTable) (typeName : String) (world : World) (path : String) : Prop :=
  ∃ text value, world.tree.readFile path = .ok text ∧ Json.ofText text = .ok value ∧
    table.check typeName value = .ok ()

/-- What is found out about the file under a path. -/
def outcome (table : TypeTable) (typeName : String) (world : World) (path : String) :
    Except InstanceError Unit :=
  match world.tree.readFile path with
  | .error fault => .error (.unreadable path fault)
  | .ok text => table.checkText typeName text

end TypeTable

namespace World

variable {world : World} {table : TypeTable} {typeName : String}

end World

end CheckedTypes
