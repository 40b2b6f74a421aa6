import PlaceholderExports.Host
import PlaceholderExports.Store.Disk

/-!
# Terminals

A terminal is a disk with the lines that have been written to the two standard streams. It serves as
the surroundings of a command; its clock stands still.
-/

namespace PlaceholderExports

/-- A disk, with the lines written so far. -/
structure Terminal where
  disk : Disk := {}
  streams : Streams := {}

namespace Terminal

/-- A change of the disk that may be refused. -/
def change (f : Disk → Except StoreError Disk) : StateM Terminal (Except StoreError Unit) := do
  match f (← get).disk with
  | .ok disk =>
    modify fun t => { t with disk }
    return .ok ()
  | .error e => return .error e

/-- Makes a directory and those above it that are missing. -/
def ensureDir (path : FsPath) : StateM Terminal (Except StoreError Unit) := do
  let (disk, result) := (← get).disk.ensureDir path
  modify fun t => { t with disk }
  return result

/-- A terminal as the surroundings of a command. -/
def shell : Shell (StateM Terminal) where
  contains path := return (← get).disk.contains path
  read path := return (← get).disk.read path
  write path text := change fun d => d.write path (Text.encode text)
  ensureDir := ensureDir
  isFile path := return (← get).disk.isFile path
  isDir path := return (← get).disk.isDir path
  names path := return (← get).disk.names path
  printLine stream line := modify fun t => { t with streams := t.streams.printLine stream line }
  clock := return 0
  workingDir := return (← get).disk.workingPath

end Terminal

end PlaceholderExports
