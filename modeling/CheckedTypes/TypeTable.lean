import CheckedTypes.DocumentType
import CheckedTypes.JsonPointer
import CheckedTypes.Naming

namespace CheckedTypes

/-- A type under its name. The path is empty for the type of the whole document. -/
structure TypeEntry where
  name : String
  path : List String
  node : TypeNode
  ident : String

/-- Named types in the order in which they were found. No two share a name or an identifier. -/
structure TypeTable where
  entries : List TypeEntry := []
  root : Option String := none
  nodup_name : (entries.map TypeEntry.name).Nodup := by simp
  nodup_ident : (entries.map TypeEntry.ident).Nodup := by simp

namespace TypeTable

def get? (table : TypeTable) (name : String) : Option TypeEntry :=
  table.entries.find? (·.name == name)

def getIdent? (table : TypeTable) (ident : String) : Option TypeEntry :=
  table.entries.find? (·.ident == ident)

/-- The type of a name or, failing that, of an identifier. -/
def lookup? (table : TypeTable) (name : String) : Option TypeEntry :=
  (table.get? name).orElse fun _ => table.getIdent? name

def size (table : TypeTable) : Nat :=
  table.entries.length

def sortedEntries (table : TypeTable) : List TypeEntry :=
  table.entries.mergeSort (fun a b => !decide (b.name < a.name))

theorem not_mem_name {table : TypeTable} {name : String} (h : table.get? name = none) :
    name ∉ table.entries.map TypeEntry.name := by
  simpa [get?] using h

theorem not_mem_ident {table : TypeTable} {ident : String} (h : table.getIdent? ident = none) :
    ident ∉ table.entries.map TypeEntry.ident := by
  simpa [getIdent?] using h

def insert (table : TypeTable) (entry : TypeEntry) : Except GenerateError TypeTable :=
  match hn : table.get? entry.name with
  | some _ => .error (.duplicateDefinition entry.name)
  | none =>
    match hi : table.getIdent? entry.ident with
    | some other =>
      .error (.duplicateDefinition
        (entry.name ++ " (renders to " ++ entry.ident ++ " like " ++ other.name ++ ")"))
    | none =>
      .ok {
        entries := table.entries ++ [entry]
        root := table.root
        nodup_name := by
          have := not_mem_name hn
          simp_all [List.nodup_append, table.nodup_name]
        nodup_ident := by
          have := not_mem_ident hi
          simp_all [List.nodup_append, table.nodup_ident] }

def insertAll : TypeTable → List (Except GenerateError TypeEntry) → Except GenerateError TypeTable
  | table, [] => .ok table
  | _, .error fault :: _ => .error fault
  | table, .ok entry :: rest =>
    match table.insert entry with
    | .error fault => .error fault
    | .ok table => table.insertAll rest

end TypeTable

/-- The names of a pointer, each of which follows the section it stands in. -/
def definitionPath? : List (List Char) → Option (List String)
  | [] => some []
  | [_] => none
  | container :: name :: rest =>
    if ["definitions", "$defs"].contains (String.ofList container) then
      (definitionPath? rest).map (String.ofList (unescapeToken name) :: ·)
    else none

/-- The name of a definition is its path with slashes. -/
def definitionName (path : List String) : String :=
  "/".intercalate path

namespace TypeTable

/-- The type that a pointer leads to: `#` alone is the type of the whole document. -/
def resolve (table : TypeTable) (pointer : String) : Except GenerateError TypeEntry :=
  match splitOn '/' pointer.toList with
  | ['#'] :: tokens =>
    match definitionPath? tokens with
    | none => .error (.malformedReference pointer)
    | some path =>
      let name := if tokens.isEmpty then table.root else some (definitionName path)
      match name.bind table.get? with
      | none => .error (.unresolvedReference pointer)
      | some entry => .ok entry
  | _ => .error (.unsupportedShape pointer "only local $ref is support")

end TypeTable

namespace SchemaDocument

def definitionLocation (path : List String) : String :=
  path.foldl (fun location name => location ++ "/definitions/" ++ name) "#"

def definitionEntry (path : List String) (document : SchemaDocument) :
    Except GenerateError TypeEntry :=
  (document.toTypeNode (definitionLocation path)).map fun node =>
    { name := definitionName path, path, node, ident := renderPath path }

mutual
/-- The definitions inside a document, at any depth, each before those inside it. A document with a
repeated definition is an error in their place. -/
def definitionEntries (path : List String) :
    SchemaDocument → List (Except GenerateError TypeEntry)
  | document@⟨_, _, _, _, _, _, _, _, _, _, definitions, defs⟩ =>
    match document.childDefinitions (definitionName path) with
    | .error fault => [.error fault]
    | .ok _ => sectionEntries path definitions ++ sectionEntries path defs
def sectionEntries (path : List String) :
    Option (List (String × SchemaDocument)) → List (Except GenerateError TypeEntry)
  | none => []
  | some children => childEntries path children
def childEntries (path : List String) :
    List (String × SchemaDocument) → List (Except GenerateError TypeEntry)
  | [] => []
  | (name, document) :: rest =>
    document.definitionEntry (path ++ [name]) ::
      (document.definitionEntries (path ++ [name]) ++ childEntries path rest)
end

/-- The type of the whole document, if it is one, under the name it is given. -/
def rootEntry? (document : SchemaDocument) (root : Option String) :
    Except GenerateError (Option TypeEntry) :=
  if document.isType then
    match root with
    | none => .error .missingRootName
    | some name =>
      (document.toTypeNode "#").map fun node =>
        some { name, path := [], node, ident := renderName name }
  else .ok none

def toTypeTable (document : SchemaDocument) (root : Option String) :
    Except GenerateError TypeTable :=
  match document.rootEntry? root with
  | .error fault => .error fault
  | .ok none => TypeTable.insertAll {} (document.definitionEntries [])
  | .ok (some entry) =>
    TypeTable.insertAll { entries := [entry], root := some entry.name }
      (document.definitionEntries [])

end SchemaDocument

end CheckedTypes
