import CheckedTypes.SplitText

namespace CheckedTypes

def pathParts (path : String) : List String :=
  (splitOn '/' path.toList).map String.ofList

inductive FileFault where
  | missing
  | present
  | notDirectory
  | isDirectory
  | nameTooLong
  | noRoom
  | nulInName
  | notText
  | other (text : String)

def FileFault.message : FileFault → String
  | missing => "No such file or directory (os error 2)"
  | present => "File exists (os error 17)"
  | notDirectory => "Not a directory (os error 20)"
  | isDirectory => "Is a directory (os error 21)"
  | nameTooLong => "File name too long (os error 36)"
  | noRoom => "No space left on device (os error 28)"
  | nulInName => "file name contained an unexpected NUL byte"
  | notText => "stream did not contain valid UTF-8"
  | other text => text

/-- What a command does to the world around it. -/
structure Host (m : Type → Type) where
  readFile : (path : String) → m (Except FileFault String)
  readInput : m (Except FileFault String)
  /-- Whether there is anything under a path. -/
  holds : (path : String) → m Bool
  isDirectory : (path : String) → m Bool
  list : (path : String) → m (List String)
  /-- Creates one directory inside of one that is there. -/
  createDirectory : (path : String) → m (Except FileFault Unit)
  writeFile : (path text : String) → m (Except FileFault Unit)
  print : (text : String) → m Unit
  printError : (text : String) → m Unit

end CheckedTypes
