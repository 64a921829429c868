import CheckedTypes.CommandRun

open CheckedTypes

def fileFault : IO.Error → FileFault
  | .noFileOrDirectory .. => .missing
  | .alreadyExists .. => .present
  | .inappropriateType .. => .isDirectory
  | error => .other (toString error)

def attempt {α : Type} (action : IO α) : IO (Except FileFault α) := do
  match ← action.toBaseIO with
  | .ok value => return .ok value
  | .error error => return .error (fileFault error)

def attemptText (action : IO ByteArray) : IO (Except FileFault String) := do
  return (← attempt action).bind fun bytes =>
    match String.fromUTF8? bytes with
    | some text => .ok text
    | none => .error .notText

partial def readAll (stream : IO.FS.Stream) (done : ByteArray) : IO ByteArray := do
  let more ← stream.read 65536
  if more.isEmpty then return done else readAll stream (done ++ more)

/-- The machine that the program runs on. -/
def machine : Host IO where
  readFile path := attemptText (IO.FS.readBinFile path)
  readInput := attemptText (do readAll (← IO.getStdin) .empty)
  holds path := return (← attempt (IO.FS.realPath path)) matches .ok _
  isDirectory path := do
    match ← attempt (IO.FS.realPath path) with
    | .ok place => place.isDir
    | .error _ => return false
  list path := do
    match ← attempt (do (← IO.FS.realPath path).readDir) with
    | .ok entries => return entries.toList.map (·.fileName)
    | .error _ => return []
  createDirectory path := attempt (IO.FS.createDir path)
  writeFile path text := attempt (IO.FS.writeFile path text)
  print text := IO.print text
  printError text := IO.eprint text

def usage : String :=
  "Usage: schema-codegen [-v] <go|typescript|check> --input <INPUT> [OPTIONS]\n"

def main (arguments : List String) : IO UInt32 := do
  match CommandLine.ofArguments arguments with
  | .error .displayHelp =>
    IO.print usage
    return 0
  | .error .displayVersion =>
    IO.println "schema-codegen 0.1.0"
    return 0
  | .error _ =>
    IO.eprint usage
    return 2
  | .ok line =>
    match ← line.run machine with
    | .ok _ => return 0
    | .error fault =>
      IO.eprintln ("error: " ++ fault.message)
      return 1
