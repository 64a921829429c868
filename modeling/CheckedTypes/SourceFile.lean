import CheckedTypes.FileParts
import CheckedTypes.Emission

namespace CheckedTypes

/-- What to generate besides the language: the name for the type of the whole document and the
module of the file. -/
structure GenerateOptions where
  root : Option String := none
  modulePath : String := "schema"

structure SourceDraft where
  file : FileParts
  patterns : Nat := 0

namespace EmissionContext

/-- What a whole type adds to the file; `next` is the number of the next pattern. -/
def emit (context : EmissionContext) (next : Nat) (node : TypeNode) : Emission :=
  context.emission FileParts.root false next node.sorted

def ofTable (target : Target) (table : TypeTable) : Except GenerateError EmissionContext :=
  (table.validatedTypes target.dispatches).map fun validated =>
    { target, table, validated, current := "" }

def declaration (context : EmissionContext) (entry : TypeEntry) (emission : Emission) : String :=
  let target := context.target
  let w : CodeWriter := { tab := target.tab }
  let w := (w.write (target.declarationStart entry.ident entry.node)).putAll emission.declaration
  (w.write target.declarationEnd).newline.text

end EmissionContext

namespace FileParts

def addPatterns (file : FileParts) (next : Nat) : List String → FileParts
  | [] => file
  | pattern :: rest =>
    (file.addGlobal (file.target.patternDeclaration (patternVariable next) pattern)).addPatterns
      (next + 1) rest

end FileParts

namespace SourceDraft

def addEntry (context : EmissionContext) (draft : SourceDraft) (entry : TypeEntry) :
    Except GenerateError SourceDraft :=
  let file := draft.file.addExport entry.ident
  match entry.node with
  | .enumeration values =>
    (file.addEnum entry.ident values).map fun file => { draft with file }
  | node =>
    let context := { context with current := entry.name }
    let emission := context.emit draft.patterns node
    emission.outcome.map fun (ignorable, checks) =>
      let validation := if ignorable then none else some (validatorText context.target checks)
      let file := file.addPatterns draft.patterns emission.patterns
      { file := file.addType entry.ident (context.declaration entry emission) validation
        patterns := draft.patterns + emission.patterns.length }

def addEntries (context : EmissionContext) (draft : SourceDraft) :
    List TypeEntry → Except GenerateError SourceDraft
  | [] => .ok draft
  | entry :: rest =>
    match draft.addEntry context entry with
    | .error fault => .error fault
    | .ok draft => draft.addEntries context rest

end SourceDraft

def TypeTable.render (table : TypeTable) (target : Target) (modulePath : String) :
    Except GenerateError String :=
  match EmissionContext.ofTable target table with
  | .error fault => .error fault
  | .ok context =>
    (SourceDraft.addEntries context { file := .empty target } table.sortedEntries).map
      fun draft => draft.file.assemble modulePath

def SchemaDocument.generate (document : SchemaDocument) (target : Target)
    (options : GenerateOptions) : Except GenerateError String :=
  match document.toTypeTable options.root with
  | .error fault => .error fault
  | .ok table => table.render target options.modulePath

end CheckedTypes
