import CheckedTypes.GlobPattern
import CheckedTypes.Host

namespace CheckedTypes

def appendName (path name : String) : String :=
  if path.isEmpty || path.endsWith "/" then path ++ name else path ++ "/" ++ name

def isHere (path : String) : Bool :=
  path.startsWith "." && (splitOn '/' path.toList).all fun part => part == [] || part == ['.']

def joinPath (directory name : String) : String :=
  if isHere directory then name else appendName directory name

/-- A pattern for paths: where the search starts, a pattern for each part of the path, and whether
only directories are found. -/
structure PathPattern where
  start : String
  parts : List GlobPattern
  onlyDirectories : Bool

namespace PathPattern

def parts? : List (List Char) → Except GlobFault (List GlobPattern)
  | [] => .ok []
  | part :: rest =>
    match GlobPattern.ofChars 0 none part with
    | .error fault => .error fault
    | .ok pattern => (parts? rest).map (pattern :: ·)

/-- The pattern has to be one as a whole and in each of its parts. -/
def ofText (text : String) : Except GlobFault PathPattern :=
  match GlobPattern.ofText text with
  | .error fault => .error fault
  | .ok _ =>
    let chars := text.toList
    let onlyDirectories := chars.getLast? == some '/'
    let parts := splitOn '/' (chars.dropWhile (· == '/'))
    (parts? (if onlyDirectories then parts.dropLast else parts)).map fun parts =>
      { start := if chars.head? == some '/' then "/" else ".", parts, onlyDirectories }

/-- Recursive parts right after another one add nothing. -/
def dropRecursive : List GlobPattern → List GlobPattern
  | [] => []
  | part :: rest => if part.isRecursive then dropRecursive rest else part :: rest

variable {m : Type → Type} [Monad m]

def gather (search : String → m (List String)) : List String → m (List String)
  | [] => return []
  | item :: rest => do return (← search item) ++ (← gather search rest)

mutual
/-- The paths below `path` that match; a part without wildcards is looked up, and else all names
are tried in their order. `fuel` bounds the depth of the search. -/
def expand (host : Host m) (onlyDirectories : Bool) :
    (fuel : Nat) → (path : String) → List GlobPattern → m (List String)
  | 0, _, _ => return []
  | _ + 1, _, [] => return []
  | fuel + 1, path, part :: rest => do
    let found (path : String) : m (List String) := do
      match rest with
      | [] =>
        if onlyDirectories && !(← host.isDirectory path) then return []
        else return [path]
      | _ => expand host onlyDirectories fuel path rest
    let isDirectory ← host.isDirectory path
    match part.literal? with
    | some name =>
      let next := joinPath path name
      if name = "." ∨ name = ".." then
        if isDirectory then found next else return []
      else if ← host.holds next then found next
      else return []
    | none =>
      if isDirectory then
        let names := (← host.list path).mergeSort (fun a b => !decide (b < a))
        let specials :=
          if part.head? == some (.char '.') then
            ["..", "."].filter fun name => part.isMatch name.toList
          else []
        let special ← gather (fun name =>
          found (appendName path name)) specials
        let plain ← gather (fun name =>
          visit host onlyDirectories fuel (joinPath path name) name (part :: rest)) names
        return special ++ plain
      else return []
/-- The paths from `path` on that match, where its last part is still to be matched. -/
def visit (host : Host m) (onlyDirectories : Bool) :
    (fuel : Nat) → (path name : String) → List GlobPattern → m (List String)
  | 0, _, _, _ => return []
  | _ + 1, _, _, [] => return []
  | fuel + 1, path, name, part :: rest => do
    let isDirectory ← host.isDirectory path
    let matched (part : GlobPattern) (rest : List GlobPattern) : m (List String) := do
      if part.isMatch name.toList then
        match rest with
        | [] => return if onlyDirectories && !isDirectory then [] else [path]
        | _ => expand host onlyDirectories fuel path rest
      else return []
    if part.isRecursive then
      let inside ←
        if isDirectory then expand host onlyDirectories fuel path (part :: dropRecursive rest)
        else pure []
      match dropRecursive rest with
      | [] => return if isDirectory then path :: inside else []
      | next :: rest => return (← matched next rest) ++ inside
    else matched part rest
end

/-- The paths that match, each directory's names in their order. Paths have no more than 4096
characters, so that no search goes deeper. -/
def search (host : Host m) (pattern : PathPattern) : m (List String) :=
  expand host pattern.onlyDirectories 8192 pattern.start pattern.parts

end PathPattern

end CheckedTypes
