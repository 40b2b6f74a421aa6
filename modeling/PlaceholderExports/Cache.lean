import PlaceholderExports.Assoc
import PlaceholderExports.FsPath

/-!
# A cache by path and contents

A cache keeps at most one value for a path, together with a fingerprint of the contents from which
the value was computed. A value is found only for contents with the same fingerprint; storing a
value replaces the earlier one of the path.
-/

namespace PlaceholderExports

/-- A 64-bit fingerprint of a text: every byte is mixed in by an exclusive or and a
multiplication. -/
def fingerprint (text : String) : UInt64 :=
  text.toUTF8.foldl (fun h b => (h ^^^ b.toUInt64) * 0x100000001b3) 0xcbf29ce484222325

/-- One stored value and the fingerprint of its contents. -/
structure CacheEntry (κ α : Type) where
  key : κ
  value : α

/-- Stored values by path. -/
structure Cache (κ α : Type) where
  entries : List (FsPath × CacheEntry κ α) := []

namespace Cache

variable {κ α : Type}

/-- The entry of a path. -/
def find? (c : Cache κ α) (path : FsPath) : Option (CacheEntry κ α) := c.entries.lookup path

/-- The value of a path, if it was computed from contents with this fingerprint. -/
def get? [DecidableEq κ] (c : Cache κ α) (path : FsPath) (key : κ) : Option α :=
  match c.find? path with
  | some entry => if entry.key = key then some entry.value else none
  | none => none

/-- Stores the value of a path. -/
def insert (c : Cache κ α) (path : FsPath) (key : κ) (value : α) : Cache κ α :=
  { entries := Assoc.put path ⟨key, value⟩ c.entries }

/-- The number of paths with a value. -/
def size (c : Cache κ α) : Nat := c.entries.length

/-- Whether no path has a value. -/
def isEmpty (c : Cache κ α) : Bool := c.size == 0

/-- The cache without values. -/
def clear (_ : Cache κ α) : Cache κ α := {}

end Cache

end PlaceholderExports
