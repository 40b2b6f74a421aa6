import PlaceholderExports.CommandLine.Run

/-!
# The program

The command in the surroundings of the system: its files, its standard streams and its clock.
-/

namespace PlaceholderExports

/-- The refusal behind an error of the system. -/
def StoreError.ofSystem : IO.Error → StoreError
  | .noFileOrDirectory _ _ _ => .noSuchFile
  | .alreadyExists _ _ _ => .alreadyExists
  | .inappropriateType _ 20 _ => .notDirectory
  | .inappropriateType _ 21 _ => .isDirectory
  | e => .other (toString e)

/-- The result of an action, or why the system refuses it. -/
def attempt {α : Type} (action : IO α) : IO (Except StoreError α) := do
  try return .ok (← action)
  catch e => return .error (.ofSystem e)

/-- The text of a file. -/
def readSystemFile (path : FsPath) : IO (Except StoreError String) := do
  match ← attempt (IO.FS.readBinFile path.text) with
  | .ok bytes => return (Text.decode bytes.toList).mapError fun _ => .notText
  | .error e => return .error e

/-- The system as the surroundings of the command. -/
def systemShell : Shell IO where
  contains path := do ((← IO.currentDir) / path.text).pathExists
  read := readSystemFile
  write path text := attempt (IO.FS.writeFile path.text text)
  ensureDir path := attempt (IO.FS.createDirAll path.text)
  isFile path := do
    match ← attempt ((← IO.currentDir) / path.text).metadata with
    | .ok data => return data.type == .file
    | .error _ => return false
  isDir path := do ((← IO.currentDir) / path.text).isDir
  names path := do
    match ← attempt ((← IO.currentDir) / path.text).readDir with
    | .ok entries => return entries.toList.map (·.fileName)
    | .error _ => return []
  printLine stream line :=
    match stream with
    | .out => IO.println line
    | .err => IO.eprintln line
  clock := IO.monoNanosNow
  workingDir := return (← IO.currentDir).toString

end PlaceholderExports

/-- Runs the command with the arguments of the program. -/
def main (arguments : List String) : IO UInt32 :=
  PlaceholderExports.CommandLine.execute PlaceholderExports.systemShell arguments
