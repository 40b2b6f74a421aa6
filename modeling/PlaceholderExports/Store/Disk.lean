import PlaceholderExports.Assoc
import PlaceholderExports.Failure
import PlaceholderExports.FsPath.Components

/-!
# Files on disk

A disk is a tree of directories and files with a working directory. A path is followed segment by
segment: everything before its last segment has to be a directory. The refusals are those of the
system.

* `Disk.resolve`: where a path leads.
* `read`, `write`, `makeDir`, `ensureDir`, `remove`: the operations.
* `names`: the entries of a directory.
-/

namespace PlaceholderExports

open PlaceholderExports.Text (Bytes)

/-- The names from the root of a disk to an entry. -/
abbrev Location := List String

/-- What a location holds. -/
inductive DiskEntry where
  | file (bytes : Bytes)
  | directory
deriving DecidableEq, Repr

/-- The entries of a disk by location, and the working directory. The root is always there. -/
structure Disk where
  entries : List (Location × DiskEntry) := []
  workingDir : Location := []
deriving DecidableEq, Repr

/-- The absolute path of a location. -/
def Location.text (location : Location) : String :=
  if location = [] then "/" else String.join (location.map ("/" ++ ·))

namespace Disk

/-- The absolute path of the working directory. -/
def workingPath (d : Disk) : String := Location.text d.workingDir

/-- What a location holds, if anything. -/
def entry? (d : Disk) (location : Location) : Option DiskEntry :=
  if location = [] then some .directory else d.entries.lookup location

/-- The disk with an entry at a location. -/
def set (d : Disk) (location : Location) (e : DiskEntry) : Disk :=
  { d with entries := Assoc.put location e d.entries }

/-! ### Following paths -/

/-- The bytes of the longest name of an entry. -/
def longestName : Nat := 255

/-- The segments of a path that lead somewhere. -/
def steps (path : List Char) : List String :=
  (List.splitOn '/' path).filter (· ≠ []) |>.map String.ofList

/-- Where a path leads: into a directory, and there to a name or to the directory itself. -/
structure Destination where
  directory : Location
  name? : Option String
  /-- The path ends in a slash. -/
  hasSlash : Bool
deriving DecidableEq, Repr

/-- The location of a destination. -/
def Destination.location (t : Destination) : Location := t.directory ++ t.name?.toList

/-- Goes from a directory into an entry of it. -/
def enter (d : Disk) (dir : Location) (step : String) : Except StoreError Location :=
  if step = "." then .ok dir
  else if step = ".." then .ok dir.dropLast
  else if step.utf8ByteSize > longestName then .error .nameTooLong
  else
    match d.entry? (dir ++ [step]) with
    | some .directory => .ok (dir ++ [step])
    | some (.file _) => .error .notDirectory
    | none => .error .noSuchFile

/-- Follows the steps of a path from a directory. -/
def follow (d : Disk) (dir : Location) (hasSlash : Bool) :
    List String → Except StoreError Destination
  | [] => .ok ⟨dir, none, hasSlash⟩
  | [step] =>
    if step = "." then .ok ⟨dir, none, hasSlash⟩
    else if step = ".." then .ok ⟨dir.dropLast, none, hasSlash⟩
    else if step.utf8ByteSize > longestName then .error .nameTooLong
    else .ok ⟨dir, some step, hasSlash⟩
  | step :: more => do d.follow (← d.enter dir step) hasSlash more

/-- Where a path leads. -/
def resolve (d : Disk) (path : FsPath) : Except StoreError Destination :=
  let text := path.text.toList
  if text = [] then .error .noSuchFile
  else if text.contains '\x00' then .error .invalidInput
  else if path.text.utf8ByteSize > FsPath.maxBytes then .error .nameTooLong
  else
    d.follow (if text.head? = some '/' then [] else d.workingDir) (text.getLast? = some '/')
      (steps text)

/-- The entry that a path leads to. -/
def find (d : Disk) (path : FsPath) : Except StoreError DiskEntry := do
  let t ← d.resolve path
  match d.entry? t.location with
  | none => throw .noSuchFile
  | some (.file bytes) => if t.hasSlash then throw .notDirectory else return .file bytes
  | some .directory => return .directory

/-- Whether a path leads to an entry. -/
def contains (d : Disk) (path : FsPath) : Bool := (d.find path).toBool

/-- Whether a path leads to a file. -/
def isFile (d : Disk) (path : FsPath) : Bool :=
  match d.find path with
  | .ok (.file _) => true
  | _ => false

/-- Whether a path leads to a directory. -/
def isDir (d : Disk) (path : FsPath) : Bool :=
  match d.find path with
  | .ok .directory => true
  | _ => false

/-! ### Operations -/

/-- The text of a file. -/
def read (d : Disk) (path : FsPath) : Except StoreError String := do
  match ← d.find path with
  | .file bytes => (Text.decode bytes).mapError fun _ => .notText
  | .directory => throw .isDirectory

/-- Replaces the bytes of a file, or makes a new file. -/
def write (d : Disk) (path : FsPath) (bytes : Bytes) : Except StoreError Disk := do
  let t ← d.resolve path
  if t.hasSlash || t.name?.isNone then throw .isDirectory
  match d.entry? t.location with
  | some .directory => throw .isDirectory
  | _ => return d.set t.location (.file bytes)

/-- Makes one directory. -/
def makeDir (d : Disk) (path : FsPath) : Except StoreError Disk := do
  let t ← d.resolve path
  match d.entry? t.location with
  | some _ => throw .alreadyExists
  | none => return d.set t.location .directory

/-- The path without its last component. -/
def parent? (text : List Char) : Option (List Char) :=
  let l := FsPath.layout text
  match FsPath.Layout.trimEnd l.body with
  | [] => if l.dotted then some [] else none
  | body => some { l with body := FsPath.Layout.trimEnd body.dropLast }.text

/-- Makes a directory and those above it that are missing. The number bounds how many are. -/
def ensureDirFor (d : Disk) (path : FsPath) : Nat → Disk × Except StoreError Unit
  | 0 => (d, .error .noSuchFile)
  | fuel + 1 =>
    if path.text = "" then (d, .ok ())
    else
      match d.makeDir path, parent? path.text.toList with
      | .ok d, _ => (d, .ok ())
      | .error .noSuchFile, some parent =>
        match d.ensureDirFor ⟨String.ofList parent⟩ fuel with
        | (d, .ok ()) =>
          match d.makeDir path with
          | .ok d => (d, .ok ())
          | .error e => (d, if d.isDir path then .ok () else .error e)
        | failed => failed
      | .error e, _ => (d, if d.isDir path then .ok () else .error e)

/-- Makes a directory and those above it that are missing. -/
def ensureDir (d : Disk) (path : FsPath) : Disk × Except StoreError Unit :=
  d.ensureDirFor path (path.text.length + 1)

/-- Removes a file. -/
def remove (d : Disk) (path : FsPath) : Except StoreError Disk := do
  let t ← d.resolve path
  match ← d.find path with
  | .file _ => return { d with entries := d.entries.filter (·.1 ≠ t.location) }
  | .directory => throw .isDirectory

/-- The names of the entries of a directory, nothing for anything else. -/
def names (d : Disk) (path : FsPath) : List String :=
  match d.resolve path, d.isDir path with
  | .ok t, true =>
    d.entries.filterMap fun (l, _) =>
      if l.dropLast = t.location then l.getLast? else none
  | _, _ => []

/-- Every file with its bytes. -/
def files (d : Disk) : List (Location × Bytes) :=
  d.entries.filterMap fun (l, e) =>
    match e with
    | .file bytes => some (l, bytes)
    | .directory => none

end Disk

end PlaceholderExports
