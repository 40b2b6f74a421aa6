import Mathlib
import PlaceholderExports.Cache

/-!
# Laws of the cache

What is found in a cache after storing: a stored value is found under its path, in the place of an
older one, and every other path is untouched (`find?_insert`). The path is added to those that have
a value, if it is not among them yet (`paths_insert`).
-/

namespace PlaceholderExports.Cache

variable {κ α : Type}

/-- A new cache has no entries. -/
@[simp] lemma find?_empty (path : FsPath) : ({} : Cache κ α).find? path = none := rfl

/-- A stored entry is found under its path, and all other paths are as before. -/
lemma find?_insert (c : Cache κ α) (path p : FsPath) (key : κ) (value : α) :
    (c.insert path key value).find? p = if p = path then some ⟨key, value⟩ else c.find? p :=
  Assoc.lookup_put

/-- A value is found if the entry of the path has it, with the same key. -/
lemma get?_eq_some [DecidableEq κ] {c : Cache κ α} {path : FsPath} {key : κ} {value : α} :
    c.get? path key = some value ↔ c.find? path = some ⟨key, value⟩ := by
  unfold get?
  cases c.find? path with
  | none => exact ⟨nofun, nofun⟩
  | some entry =>
    obtain ⟨key', value'⟩ := entry
    by_cases h : key' = key
    · subst h
      simp
    · simp [h]

/-! ### Paths -/

/-- The paths that have a value. -/
def paths (c : Cache κ α) : List FsPath := c.entries.map (·.1)

/-- Storing a value puts its path at the end, unless it is there already. -/
lemma paths_insert (c : Cache κ α) (path : FsPath) (key : κ) (value : α) :
    (c.insert path key value).paths = if path ∈ c.paths then c.paths else c.paths ++ [path] :=
  Assoc.map_fst_update

/-- Storing a value adds its path and keeps all others. -/
lemma mem_paths_insert {c : Cache κ α} {path p : FsPath} {key : κ} {value : α} :
    path ∈ (c.insert p key value).paths ↔ p = path ∨ path ∈ c.paths := by
  rw [paths_insert]
  by_cases old : p ∈ c.paths
  · rw [if_pos old]
    constructor
    · exact .inr
    · rintro (rfl | mem)
      · exact old
      · exact mem
  · rw [if_neg old, List.mem_append, List.mem_singleton, or_comm, eq_comm]

end PlaceholderExports.Cache
