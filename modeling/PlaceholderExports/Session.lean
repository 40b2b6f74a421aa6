import PlaceholderExports.Assoc
import PlaceholderExports.Host

/-!
# Sessions in memory

A store in memory holds the bytes of files by path; directories exist only as parts of paths.
Writing replaces what was under a path. A session is such a store with the log of what a plugin has
sent. It serves as the surroundings of a plugin; its clock stands still.

* `MemoryStore.read`, `write`, `contains`, `paths`: the operations of a store in memory.
* `Session.host`: a session as surroundings.
-/

namespace PlaceholderExports

open PlaceholderExports.Text (Bytes)

/-! ### Stores -/

/-- Files by path, each path once. -/
structure MemoryStore where
  files : List (FsPath × Bytes) := []
deriving DecidableEq, Repr

namespace MemoryStore

/-- Stores bytes under a path. -/
def write (s : MemoryStore) (path : FsPath) (bytes : Bytes) : MemoryStore :=
  ⟨Assoc.put path bytes s.files⟩

/-- A store of some files; of several under one path the last one counts. -/
def ofFiles (files : List (FsPath × Bytes)) : MemoryStore :=
  files.foldl (fun s (path, bytes) => s.write path bytes) {}

/-- The bytes under a path. -/
def bytes? (s : MemoryStore) (path : FsPath) : Option Bytes := s.files.lookup path

/-- Whether there is a file under a path. -/
def contains (s : MemoryStore) (path : FsPath) : Bool := (s.bytes? path).isSome

/-- The text under a path. -/
def read (s : MemoryStore) (path : FsPath) : Except StoreError String :=
  match s.bytes? path with
  | none => .error (.missing path)
  | some bytes => (Text.decode bytes).mapError .undecodable

/-- Every path, in ascending order. -/
def paths (s : MemoryStore) : List FsPath := FsPath.sort (s.files.map (·.1))

end MemoryStore

/-! ### Surroundings -/

/-- A store in memory, with the messages sent so far. -/
structure Session where
  store : MemoryStore := {}
  log : List LogEntry := []

/-- A session as the surroundings of a plugin. -/
def Session.host : Host (StateM Session) where
  contains path := return (← get).store.contains path
  read path := return (← get).store.read path
  write path text := do
    modify fun s => { s with store := s.store.write path (Text.encode text) }
    return .ok ()
  ensureDir _ := return .ok ()
  log entry := modify fun s => { s with log := s.log ++ [entry] }
  clock := return 0

end PlaceholderExports
