import PlaceholderExports.Proofs.Text.ByteOrder
import PlaceholderExports.Session

/-!
# Laws of stores in memory

What is found in a store after writing: the bytes that were written under their path, and what was
there before under every other path (`bytes?_write`). So a store of some files has the bytes that
come last for a path (`bytes?_ofFiles`). It has no path twice (`nodup_ofFiles`), which makes the
list of its paths ascend strictly (`ascending_paths`).
-/

namespace PlaceholderExports.MemoryStore

open PlaceholderExports.Text (Bytes)

/-- Written bytes are found under their path, and all other paths are as before. -/
lemma bytes?_write (s : MemoryStore) (path p : FsPath) (bytes : Bytes) :
    (s.write path bytes).bytes? p = if p = path then some bytes else s.bytes? p :=
  Assoc.lookup_put

/-! ### Stores of files -/

/-- Files are stored one after the other. -/
lemma ofFiles_append (files more : List (FsPath × Bytes)) :
    ofFiles (files ++ more) =
      more.foldl (fun s (path, bytes) => s.write path bytes) (ofFiles files) :=
  List.foldl_append

/-- After some writes, a store has the bytes that were written last under a path, or those of
before. -/
lemma bytes?_foldl_write (path : FsPath) (files : List (FsPath × Bytes)) (s : MemoryStore) :
    (files.foldl (fun s (path, bytes) => s.write path bytes) s).bytes? path =
      (Assoc.last? path files).or (s.bytes? path) := by
  induction files using List.reverseRecOn with
  | nil => rfl
  | append_singleton files file ih =>
    obtain ⟨p, bytes⟩ := file
    rw [List.foldl_append, List.foldl_cons, List.foldl_nil, bytes?_write, ih, Assoc.last?_concat]
    by_cases own : path = p
    · rw [if_pos own, if_pos own]
      rfl
    · rw [if_neg own, if_neg own]

/-- A store of some files has the bytes that come last for a path. -/
lemma bytes?_ofFiles (path : FsPath) (files : List (FsPath × Bytes)) :
    (ofFiles files).bytes? path = Assoc.last? path files :=
  (bytes?_foldl_write path files {}).trans Option.or_none

/-! ### Paths -/

/-- A store of some files has no path twice. -/
lemma nodup_ofFiles (files : List (FsPath × Bytes)) :
    ((ofFiles files).files.map (·.1)).Nodup := by
  induction files using List.reverseRecOn with
  | nil => exact List.nodup_nil
  | append_singleton files file ih =>
    rw [ofFiles_append]
    exact Assoc.nodup_update ih

/-- The paths of a store are those that have bytes. -/
lemma mem_paths {s : MemoryStore} {path : FsPath} :
    path ∈ s.paths ↔ (s.bytes? path).isSome = true :=
  List.mem_mergeSort.trans Assoc.isSome_lookup.symm

/-- Without repeats, sorted paths ascend strictly by their bytes. -/
lemma ascending_paths {s : MemoryStore} (nodup : (s.files.map (·.1)).Nodup) :
    s.paths.Pairwise fun p q => Text.encode p.text < Text.encode q.text := by
  have sorted : s.paths.Pairwise fun p q => p.text ≤ q.text :=
    Text.pairwise_mergeSort FsPath.text _
  have distinct : s.paths.Nodup := (List.mergeSort_perm _ _).nodup_iff.2 nodup
  refine (sorted.and distinct).imp fun {p q} ⟨le, ne⟩ => Text.encode_lt (lt_of_le_of_ne le ?_)
  exact fun same => ne (congrArg FsPath.mk same)

end PlaceholderExports.MemoryStore
