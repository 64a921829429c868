import CheckedTypes.Host

namespace CheckedTypes

/-- Files and directories by the names that lead to them from the root. What lies above a file or a
directory is a directory, too. What is written to a sink is gone or, if it is full, finds no room;
nothing is read from it. -/
structure FileTree where
  home : List String := ["tmp", "work"]
  files : List (List String × ByteArray) := []
  sinks : List (List String) := [["dev", "null"]]
  fullSinks : List (List String) := [["dev", "full"]]
  directories : List (List String) :=
    ["bin", "etc", "home", "lib", "opt", "proc", "root", "run", "sbin", "sys", "usr", "var"].map
      ([·])

inductive FileEntry where
  | file (content : ByteArray)
  | sink (full : Bool)
  | directory

namespace FileTree

def ofFiles (files : List (String × ByteArray)) : FileTree :=
  let tree : FileTree := {}
  { tree with files := files.map fun (path, content) => (tree.home ++ pathParts path, content) }

def homeFiles (tree : FileTree) : List (String × ByteArray) :=
  (tree.files.filter fun (place, _) => tree.home.isPrefixOf place).map fun (place, content) =>
    ("/".intercalate (place.drop tree.home.length), content)

def isDirectory (tree : FileTree) (place : List String) : Bool :=
  let isAbove (other : List String) := place.isPrefixOf other && place != other
  place.isPrefixOf tree.home || tree.directories.any place.isPrefixOf ||
    tree.files.any (fun (file, _) => isAbove file) || (tree.sinks ++ tree.fullSinks).any isAbove

def entry? (tree : FileTree) (place : List String) : Option FileEntry :=
  match tree.files.lookup place with
  | some content => some (.file content)
  | none =>
    if tree.sinks.contains place then some (.sink false)
    else if tree.fullSinks.contains place then some (.sink true)
    else if tree.isDirectory place then some .directory
    else none

def nameLimit : Nat := 255

def pathLimit : Nat := 4095

/-- Follows the parts of a path; all but the last have to be there. What is above the root is the
root. -/
def follow (tree : FileTree) (place : List String) :
    List String → Except FileFault (List String)
  | [] => .ok place
  | part :: rest =>
    match tree.entry? place with
    | none => .error .missing
    | some .directory =>
      if part = "" ∨ part = "." then tree.follow place rest
      else if part = ".." then tree.follow place.dropLast rest
      else if nameLimit < part.utf8ByteSize then .error .nameTooLong
      else tree.follow (place ++ [part]) rest
    | some _ => .error .notDirectory

def followPath (tree : FileTree) (path : String) (parts : List String) :
    Except FileFault (List String) :=
  if path.contains '\x00' then .error .nulInName
  else if path.isEmpty then .error .missing
  else if pathLimit < path.utf8ByteSize then .error .nameTooLong
  else tree.follow (if path.startsWith "/" then [] else tree.home) parts

def place (tree : FileTree) (path : String) : Except FileFault (List String) :=
  tree.followPath path (pathParts path)

def find (tree : FileTree) (path : String) : Except FileFault FileEntry :=
  match tree.place path with
  | .error fault => .error fault
  | .ok place =>
    match tree.entry? place with
    | none => .error .missing
    | some entry => .ok entry

def readFile (tree : FileTree) (path : String) : Except FileFault String :=
  match tree.find path with
  | .error fault => .error fault
  | .ok .directory => .error .isDirectory
  | .ok (.sink _) => .ok ""
  | .ok (.file content) =>
    match String.fromUTF8? content with
    | none => .error .notText
    | some text => .ok text

def list (tree : FileTree) (path : String) : List String :=
  match tree.place path with
  | .error _ => []
  | .ok place =>
    let sinks := tree.sinks ++ tree.fullSinks
    let places := tree.home :: (tree.files.map Prod.fst ++ sinks ++ tree.directories)
    let inside := places.filter fun inner => place.isPrefixOf inner && place != inner
    (inside.filterMap fun inner => inner[place.length]?).eraseDups

def withoutEndSlashes (path : String) : String :=
  String.ofList ((path.toList.reverse.dropWhile (· == '/')).reverse)

def createDirectory (tree : FileTree) (path : String) : Except FileFault FileTree :=
  match tree.place (withoutEndSlashes path) with
  | .error fault => .error fault
  | .ok place =>
    match tree.entry? place with
    | some _ => .error .present
    | none => .ok { tree with directories := tree.directories ++ [place] }

def setFile (place : List String) (content : ByteArray) :
    List (List String × ByteArray) → List (List String × ByteArray)
  | [] => [(place, content)]
  | (other, old) :: rest =>
    if other = place then (place, content) :: rest
    else (other, old) :: setFile place content rest

/-- A path that ends in a slash names a directory, whether or not there is one. -/
def writeFile (tree : FileTree) (path text : String) : Except FileFault FileTree :=
  if path.endsWith "/" then
    match tree.followPath path ((pathParts (withoutEndSlashes path)).dropLast ++ ["."]) with
    | .error fault => .error fault
    | .ok _ => .error .isDirectory
  else
    match tree.place path with
    | .error fault => .error fault
    | .ok place =>
      match tree.entry? place with
      | some .directory => .error .isDirectory
      | some (.sink full) => if full then .error .noRoom else .ok tree
      | _ => .ok { tree with files := setFile place text.toUTF8 tree.files }

end FileTree

/-- Files, what can be read from the input, and what was written to the two outputs. -/
structure World where
  tree : FileTree := {}
  input : ByteArray := .empty
  output : String := ""
  errorOutput : String := ""

namespace World

def change (act : FileTree → Except FileFault FileTree) : StateM World (Except FileFault Unit) :=
  fun world =>
    match act world.tree with
    | .error fault => (.error fault, world)
    | .ok tree => (.ok (), { world with tree })

def host : Host (StateM World) where
  readFile path := return (← get).tree.readFile path
  readInput := do
    match String.fromUTF8? (← get).input with
    | none => return .error .notText
    | some text => return .ok text
  holds path := return (← get).tree.find path matches .ok _
  isDirectory path := return (← get).tree.find path matches .ok .directory
  list path := return (← get).tree.list path
  createDirectory path := change (·.createDirectory path)
  writeFile path text := change (·.writeFile path text)
  print text := modify fun world => { world with output := world.output ++ text }
  printError text := modify fun world => { world with errorOutput := world.errorOutput ++ text }

end World

end CheckedTypes
