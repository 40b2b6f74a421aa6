import Mathlib
import PlaceholderExports.Proofs.CommandLine.Inputs
import PlaceholderExports.Proofs.FsPath.Children
import PlaceholderExports.Proofs.Glob.Patterns

/-!
# Walks along a path

A pattern is followed from the root. Where a path leads through a file tree name by name, the
pattern that is read from its text leads the same way, if every name matches itself and `**` stands
only before ordinary names (`finds_of_leads`). A walk through directories of any depth then takes
each of them for one with the name `**`.
-/

namespace PlaceholderExports

open FsPath (IsName)
open Glob (Segment)

namespace FileTree

section

variable {σ : Type} (t : FileTree (StateM σ)) (s : σ)

/-- Whether a walk along some segments finds a path. -/
def Finds (fuel : Nat) (segments : List Segment) (path q : FsPath) : Prop :=
  q ∈ ((t.walk fuel segments path).run s).1

/-- An entry of a directory: it is there under its name, and an ordinary name is also listed. -/
structure Holds (path : FsPath) (n : List Char) : Prop where
  isDir : String.ofList n ∈ Glob.dotEntries → ((t.isDir path).run s).1 = true
  contains : String.ofList n ∉ Glob.dotEntries →
    ((t.contains (path.child (String.ofList n))).run s).1 = true
  listed : IsName n → String.ofList n ∈ ((t.names path).run s).1

/-- A path leads along some names: each is an entry of the directory before it. -/
def Leads : FsPath → List (List Char) → Prop
  | _, [] => True
  | path, n :: rest =>
    t.Holds s path n ∧
      (rest ≠ [] → IsName n → ((t.isDir (path.child (String.ofList n))).run s).1 = true) ∧
      Leads (path.child (String.ofList n)) rest

end

/-! ### Single steps -/

section

variable {σ : Type} {t : FileTree (StateM σ)} (still : t.Still) {s : σ} {fuel : Nat}
  {rest : List Segment} {path q : FsPath}

include still

/-- A name is looked up. -/
lemma finds_name {text : List Char} :
    t.Finds s (fuel + 1) (.name text :: rest) path q ↔
      (if String.ofList text ∈ Glob.dotEntries then ((t.isDir path).run s).1 else
        ((t.contains (path.child (String.ofList text))).run s).1) = true ∧
      t.Finds s fuel rest (path.child (String.ofList text)) q := by
  have goOn : ∀ isThere : Bool, q ∈ (StateT.run
      (if isThere then t.walk fuel rest (path.child (String.ofList text)) else pure []) s).1 ↔
        isThere = true ∧ t.Finds s fuel rest (path.child (String.ofList text)) q := by
    rintro (_ | _)
    · exact iff_of_false List.not_mem_nil fun found => nomatch found.1
    · exact (and_iff_right rfl).symm
  show q ∈ ((t.walk (fuel + 1) (.name text :: rest) path).run s).1 ↔ _
  rw [walk]
  dsimp only
  split_ifs
  · rw [(still.isDir path).run_bind]
    exact goOn _
  · rw [(still.contains _).run_bind]
    exact goOn _

/-- Wildcards are compared with all entries of a directory. -/
lemma finds_wild {parts : List Glob.Part} :
    t.Finds s (fuel + 1) (.wild parts :: rest) path q ↔
      ∃ e ∈ ((t.names path).run s).1 ++
          (if parts.head? = some (.char '.') ∧ ((t.isDir path).run s).1 = true
            then Glob.dotEntries else []),
        Glob.matchesName parts e.toList = true ∧ t.Finds s fuel rest (path.child e) q := by
  have goOn : ∀ dots : Bool, q ∈ (StateT.run (do
      let entries := (← t.names path) ++ if dots then Glob.dotEntries else []
      (entries.filter fun e : String => (Segment.wild parts).matches e.toList).flatMapM fun e =>
        t.walk fuel rest (path.child e)) s).1 ↔
      ∃ e ∈ ((t.names path).run s).1 ++ (if dots = true then Glob.dotEntries else []),
        Glob.matchesName parts e.toList = true ∧ t.Finds s fuel rest (path.child e) q := by
    intro dots
    rw [(still.names path).run_bind, Inspects.run_flatMapM fun e => still.walk _ _ _,
      List.mem_flatMap]
    simp only [List.mem_filter, and_assoc]
    rfl
  show q ∈ ((t.walk (fuel + 1) (.wild parts :: rest) path).run s).1 ↔ _
  rw [walk]
  dsimp only
  by_cases dots : parts.head? = some (.char '.')
  · rw [if_pos dots, (still.isDir path).run_bind]
    simp only [dots, true_and]
    exact goOn _
  · rw [if_neg dots]
    simp only [dots, false_and, if_false]
    exact goOn false

/-- At an entry a walk along `**` finds what is below it, if it is a directory, and what the rest of
the pattern finds if its next segment matches the entry. -/
lemma mem_atEntry {name : List Char} :
    q ∈ ((t.atEntry fuel rest path name).run s).1 ↔
      (((t.isDir path).run s).1 = true ∧ t.Finds s fuel (.deep :: rest) path q) ∨
        match rest with
        | [] => ((t.isDir path).run s).1 = true ∧ q = path
        | segment :: rest => segment.matches name = true ∧ t.Finds s fuel rest path q := by
  have here : ∀ isDir : Bool, ∀ below : List FsPath, q ∈ (StateT.run (do
      let here ←
        match rest with
        | [] => pure (if isDir then [path] else [])
        | segment :: rest => if segment.matches name then t.walk fuel rest path else pure []
      return below ++ here) s).1 ↔ q ∈ below ∨
        match rest with
        | [] => isDir = true ∧ q = path
        | segment :: rest => segment.matches name = true ∧ t.Finds s fuel rest path q := by
    intro isDir below
    cases rest with
    | nil =>
      refine List.mem_append.trans (or_congr_right ?_)
      cases isDir with
      | false => exact iff_of_false List.not_mem_nil fun found => nomatch found.1
      | true => exact List.mem_singleton.trans (and_iff_right rfl).symm
    | cons segment rest =>
      dsimp only
      split_ifs with matched
      · rw [(still.walk _ _ _).run_bind]
        exact List.mem_append.trans (or_congr_right (and_iff_right matched).symm)
      · refine List.mem_append.trans (or_congr_right ?_)
        exact iff_of_false List.not_mem_nil fun found => matched found.1
  unfold atEntry
  rw [(still.isDir path).run_bind]
  cases ((t.isDir path).run s).1 with
  | false =>
    refine (here false []).trans (or_congr_left ?_)
    exact iff_of_false List.not_mem_nil fun found => nomatch found.1
  | true =>
    rw [if_pos rfl, (still.walk _ _ _).run_bind]
    exact (here true _).trans (or_congr_left (and_iff_right rfl).symm)

/-- Directories of any depth: each entry leads to what is below it, and it may be the next segment
itself. -/
lemma finds_deep :
    t.Finds s (fuel + 1) (.deep :: rest) path q ↔
      ∃ e ∈ ((t.names path).run s).1,
        (((t.isDir (path.child e)).run s).1 = true ∧
          t.Finds s fuel (.deep :: rest.dropWhile (· = .deep)) (path.child e) q) ∨
        match rest.dropWhile (· = .deep) with
        | [] => ((t.isDir (path.child e)).run s).1 = true ∧ q = path.child e
        | segment :: rest =>
          segment.matches e.toList = true ∧ t.Finds s fuel rest (path.child e) q := by
  show q ∈ ((t.walk (fuel + 1) (.deep :: rest) path).run s).1 ↔ _
  rw [t.walk_deep, (still.names path).run_bind,
    Inspects.run_flatMapM fun e => still.atEntry (still.walk fuel) _ _ _, List.mem_flatMap]
  exact exists_congr fun e => and_congr_right fun _ => mem_atEntry still

/-- Repeated `**` are one. -/
lemma finds_deep_dropWhile :
    t.Finds s fuel (.deep :: rest.dropWhile (· = .deep)) path q ↔
      t.Finds s fuel (.deep :: rest) path q := by
  cases fuel with
  | zero => rfl
  | succ fuel => rw [finds_deep still, finds_deep still, List.dropWhile_idempotent]

/-- A pattern for directories keeps the directories that its walk finds. -/
lemma mem_matching {glob : Glob} :
    q ∈ ((t.matching glob).run s).1 ↔
      t.Finds s (FsPath.maxBytes + glob.segments.length) glob.segments ⟨"/"⟩ q ∧
        (glob.directoriesOnly = true → ((t.isDir q).run s).1 = true) := by
  unfold matching
  rw [(still.walk _ _ _).run_bind]
  split_ifs with directories
  · rw [Inspects.run_filterM still.isDir, List.mem_filter]
    exact and_congr_right fun _ => (imp_iff_right directories).symm
  · exact (and_iff_left fun only => absurd only directories).symm

end

/-! ### Whole walks -/

/-- Whether `**` stands only before ordinary names. -/
def starsLead : List (List Char) → Bool
  | [] => true
  | n :: rest =>
    (n != ['*', '*'] || rest.head?.any fun next => decide (IsName next)) && starsLead rest

section

variable {σ : Type} {t : FileTree (StateM σ)} (still : t.Still) {s : σ}

include still

/-- The pattern of a path finds the path, and so it does behind `**` if an ordinary name is next. -/
theorem finds_of_leads {names : List (List Char)} {segments : List Segment} {path : FsPath}
    {fuel : Nat} (leads : t.Leads s path names) (stars : starsLead names = true)
    (read : List.Forall₂ (fun n segment => Segment.IsReadFrom segment n) names segments)
    (noSlash : ∀ n ∈ names, '/' ∉ n) (self : ∀ n ∈ names, '[' ∈ n → Glob.matchesItself n = true)
    (enough : names.length ≤ fuel) :
    t.Finds s fuel segments path (path.descend names) ∧
      ((∃ n ∈ names.head?, IsName n) →
        t.Finds s fuel (.deep :: segments) path (path.descend names)) := by
  induction read generalizing path fuel with
  | nil => cases fuel <;> exact ⟨List.mem_singleton_self _, fun ⟨_, first, _⟩ => nomatch first⟩
  | @cons n segment rest segments read more ih =>
    obtain _ | fuel := fuel
    · exact absurd enough (Nat.not_succ_le_zero _)
    obtain ⟨entry, directory, leads⟩ := leads
    obtain ⟨before, stars⟩ := Bool.and_eq_true_iff.1 stars
    obtain ⟨found, foundDeep⟩ :=
      ih leads stars (fun n mem => noSlash n (List.mem_cons_of_mem _ mem))
      (fun n mem => self n (List.mem_cons_of_mem _ mem)) (Nat.le_of_succ_le_succ enough)
    -- a segment that matches the name is found behind `**` too
    have behind : segment ≠ .deep → segment.matches n = true → IsName n →
        t.Finds s (fuel + 1) (.deep :: segment :: segments) path (path.descend (n :: rest)) := by
      intro notDeep matched isName
      refine (finds_deep still).2 ⟨String.ofList n, entry.listed isName, .inr ?_⟩
      rw [List.dropWhile_cons_of_neg (by simpa using notDeep), String.toList_ofList]
      exact ⟨matched, found⟩
    obtain rfl | ⟨parts, rfl, matched, isName⟩ | ⟨rfl, rfl⟩ :=
      read.cases (noSlash n List.mem_cons_self) (self n List.mem_cons_self)
    case inl =>
      refine ⟨(finds_name still).2 ⟨?_, found⟩, fun ⟨m, same, isName⟩ => ?_⟩
      · split_ifs with dots
        · exact entry.isDir dots
        · exact entry.contains dots
      · cases same
        exact behind nofun (decide_eq_true rfl) isName
    case inr.inl =>
      refine ⟨(finds_wild still).2 ⟨String.ofList n,
        List.mem_append_left _ (entry.listed isName), ?_, found⟩,
        fun _ => behind nofun matched isName⟩
      rwa [String.toList_ofList]
    case inr.inr =>
      -- `**` takes the directory of this name for one on the way to the next name
      obtain ⟨next, first, isName⟩ : ∃ next ∈ rest.head?, IsName next := by
        cases rest with
        | nil => cases before
        | cons next rest => exact ⟨next, rfl, of_decide_eq_true before⟩
      have below : t.Finds s (fuel + 1) (.deep :: segments) path
          (path.descend (['*', '*'] :: rest)) := by
        have stars : IsName ['*', '*'] := by decide
        have notLast : rest ≠ [] := by
          rintro rfl
          cases first
        exact (finds_deep still).2 ⟨_, entry.listed stars, .inl ⟨directory notLast stars,
          (finds_deep_dropWhile still).2 (foundDeep ⟨next, first, isName⟩)⟩⟩
      refine ⟨below, fun _ => (finds_deep_dropWhile still).1 ?_⟩
      rw [List.dropWhile_cons_of_pos (by exact decide_eq_true rfl)]
      exact (finds_deep_dropWhile still).2 below

end

end FileTree

end PlaceholderExports
