import Mathlib
import PlaceholderExports.CommandLine.Inputs
import PlaceholderExports.Glob.Walk
import PlaceholderExports.Proofs.Text.ByteOrder
import PlaceholderExports.Store.Terminal

/-!
# Inputs in order

The inputs of a command are sorted and lose the repeats of their neighbours, so they ascend strictly
by their bytes (`ascending_expandInputs`). Expanding them looks at files and directories only: a
terminal stays as it is (`inspects_expandInputs`).
-/

namespace PlaceholderExports

/-! ### Actions that only look -/

/-- An action that is known to end in a state goes on from there. -/
lemma run_andThen {σ α β : Type} {x : StateM σ α} {f : α → StateM σ β} {s s' : σ} {a : α}
    (ends : x.run s = (a, s')) : (x >>= f).run s = (f a).run s' := by
  rw [StateT.run_bind, ends]
  rfl

/-- An action that leaves the state as it is. -/
def Inspects {σ α : Type} (x : StateM σ α) : Prop := ∀ s, (x.run s).2 = s

namespace Inspects

variable {σ α β : Type} {x : StateM σ α} {f : α → StateM σ β}

/-- Giving a result leaves the state as it is. -/
lemma pure (a : α) : Inspects (pure a : StateM σ α) := fun _ => rfl

/-- One look after another leaves the state as it is. -/
lemma bind (hx : Inspects x) (hf : ∀ a, Inspects (f a)) : Inspects (x >>= f) := by
  intro s
  rw [StateT.run_bind]
  exact (hf _ _).trans (hx s)

/-- An action that only looks ends in the state in which it began. -/
lemma run_eq (hx : Inspects x) {s : σ} {a : α} (answer : (x.run s).1 = a) : x.run s = (a, s) :=
  Prod.ext answer (hx s)

/-- Either of two looks leaves the state as it is. -/
lemma ite {c : Prop} [Decidable c] {y : StateM σ α} (hx : Inspects x) (hy : Inspects y) :
    Inspects (if c then x else y) := by
  split_ifs
  · exact hx
  · exact hy

/-- Looks for each element of a list leave the state as it is. -/
lemma flatMapM {f : α → StateM σ (List β)} (hf : ∀ a, Inspects (f a)) (as : List α) :
    Inspects (as.flatMapM f) := by
  have loop : ∀ found, Inspects (List.flatMapM.loop f as found) := by
    induction as with
    | nil => exact fun found => pure _
    | cons a as ih => exact fun found => (hf a).bind fun _ => ih _
  exact loop []

/-- Choosing from a list by looks leaves the state as it is, whatever was chosen before. -/
lemma filterAuxM {q : α → StateM σ Bool} (hq : ∀ a, Inspects (q a)) (as found : List α) :
    Inspects (List.filterAuxM q as found) := by
  induction as generalizing found with
  | nil => exact pure _
  | cons a as ih => exact (hq a).bind fun _ => ih _

/-- Choosing from a list by looks leaves the state as it is. -/
lemma filterM {q : α → StateM σ Bool} (hq : ∀ a, Inspects (q a)) (as : List α) :
    Inspects (as.filterM q) :=
  (filterAuxM hq as []).bind fun _ => pure _

/-- An action after one that only looks runs in the same state. -/
lemma run_bind (hx : Inspects x) (s : σ) :
    ((x >>= f).run s).1 = ((f (x.run s).1).run s).1 := by
  rw [run_andThen (hx.run_eq rfl)]

/-- Actions that only look answer one by one. -/
lemma run_flatMapM {f : α → StateM σ (List β)} (hf : ∀ a, Inspects (f a)) (as : List α) (s : σ) :
    ((as.flatMapM f).run s).1 = as.flatMap fun a => ((f a).run s).1 := by
  have loop : ∀ found, ((List.flatMapM.loop f as found).run s).1 =
      found.reverse.flatten ++ as.flatMap fun a => ((f a).run s).1 := by
    induction as with
    | nil => exact fun found => (List.append_nil _).symm
    | cons a as ih =>
      intro found
      rw [List.flatMapM.loop, (hf a).run_bind, ih, List.reverse_cons, List.flatten_concat,
        List.flatMap_cons, List.append_assoc]
  exact loop []

/-- A filter that only looks keeps what it answers `true` to. -/
lemma run_filterM {q : α → StateM σ Bool} (hq : ∀ a, Inspects (q a)) (as : List α) (s : σ) :
    ((as.filterM q).run s).1 = as.filter fun a => ((q a).run s).1 := by
  have loop : ∀ found, ((List.filterAuxM q as found).run s).1 =
      (as.filter fun a => ((q a).run s).1).reverse ++ found := by
    induction as with
    | nil => exact fun found => rfl
    | cons a as ih =>
      intro found
      rw [List.filterAuxM, (hq a).run_bind, ih, List.filter_cons]
      cases ((q a).run s).1 with
      | false => rfl
      | true => rw [if_pos rfl, List.reverse_cons, List.append_assoc]; rfl
  rw [List.filterM, (filterAuxM hq as []).run_bind, loop [], List.append_nil]
  exact List.reverse_reverse _

end Inspects

/-! ### Walks -/

/-- A file tree that stays as it is while it is looked at. -/
structure FileTree.Still {σ : Type} (t : FileTree (StateM σ)) : Prop where
  contains : ∀ path, Inspects (t.contains path)
  isFile : ∀ path, Inspects (t.isFile path)
  isDir : ∀ path, Inspects (t.isDir path)
  names : ∀ path, Inspects (t.names path)

/-- What a walk through directories of any depth finds in one entry of a directory: below the entry
if it is one, and then at the entry itself. -/
def FileTree.atEntry {σ : Type} (t : FileTree (StateM σ)) (fuel : Nat) (rest : List Glob.Segment)
    (next : FsPath) (name : List Char) : StateM σ (List FsPath) := do
  let isDir ← t.isDir next
  let below ← if isDir then t.walk fuel (.deep :: rest) next else pure []
  let here ←
    match rest with
    | [] => pure (if isDir then [next] else [])
    | segment :: rest => if segment.matches name then t.walk fuel rest next else pure []
  return below ++ here

/-- A walk along `**` looks at each entry in turn. -/
lemma FileTree.walk_deep {σ : Type} (t : FileTree (StateM σ)) (fuel : Nat)
    (rest : List Glob.Segment) (path : FsPath) :
    t.walk (fuel + 1) (.deep :: rest) path =
      t.names path >>= fun entries => entries.flatMapM fun e =>
        t.atEntry fuel (rest.dropWhile (· = .deep)) (path.child e) e.toList :=
  rfl

namespace FileTree.Still

variable {σ : Type} {t : FileTree (StateM σ)} (still : t.Still)
include still

/-- A walk looks at an entry and leaves it as it is, if it does so further on. -/
lemma atEntry {fuel : Nat} (walks : ∀ segments path, Inspects (t.walk fuel segments path))
    (rest : List Glob.Segment) (next : FsPath) (name : List Char) :
    Inspects (t.atEntry fuel rest next name) := by
  refine .bind (still.isDir _) fun isDir => ?_
  refine .ite (.bind (walks _ _) fun below => ?_) (.bind (.pure _) fun below => ?_)
  all_goals
    cases rest with
    | nil => exact .bind (.pure _) fun here => .pure _
    | cons segment rest =>
      exact .ite (.bind (walks _ _) fun here => .pure _) (.bind (.pure _) fun here => .pure _)

/-- A walk looks at the files only. -/
lemma walk (fuel : Nat) (segments : List Glob.Segment) (path : FsPath) :
    Inspects (t.walk fuel segments path) := by
  induction fuel generalizing segments path with
  | zero => cases segments <;> exact .pure _
  | succ fuel ih =>
    cases segments with
    | nil => exact .pure _
    | cons segment rest =>
      cases segment with
      | name text =>
        have goOn : ∀ isThere : Bool, Inspects
            (if isThere then t.walk fuel rest (path.child (String.ofList text)) else pure []) :=
          fun isThere => .ite (ih _ _) (.pure _)
        exact .ite (.bind (still.isDir _) goOn) (.bind (still.contains _) goOn)
      | wild parts =>
        have goOn : ∀ dots : Bool, Inspects (do
            let entries := (← t.names path) ++ if dots then Glob.dotEntries else []
            (entries.filter fun e => (Glob.Segment.wild parts).matches e.toList).flatMapM fun e =>
              t.walk fuel rest (path.child e)) :=
          fun dots => .bind (still.names _) fun entries => .flatMapM (fun e => ih _ _) _
        exact .ite (.bind (still.isDir _) goOn) (.bind (.pure _) goOn)
      | deep =>
        rw [t.walk_deep]
        exact .bind (still.names _) fun entries => .flatMapM (fun e => still.atEntry ih _ _ _) _

/-- Matching a pattern looks at the files only. -/
lemma matching (glob : Glob) : Inspects (t.matching glob) :=
  .bind (still.walk _ _ _) fun _ => .ite (.filterM still.isDir _) (.pure _)

/-- Finding the files of a pattern looks at the files only. -/
lemma matchingFiles (text : String) : Inspects (t.matchingFiles text) := by
  unfold FileTree.matchingFiles
  cases Glob.ofText text with
  | error e => exact .pure _
  | ok glob =>
    exact .bind (still.matching glob) fun paths =>
      .bind (.filterM still.isFile _) fun files => .pure _

end FileTree.Still

/-- The disk of a terminal stays as it is while it is looked at. -/
lemma Terminal.still : Terminal.shell.toFileTree.Still :=
  ⟨fun _ _ => rfl, fun _ _ => rfl, fun _ _ => rfl, fun _ _ => rfl⟩

namespace CommandLine

variable {σ : Type} {matchingFiles : String → StateM σ (Except Glob.PatternError (List FsPath))}

/-- Finding the paths of an argument looks at the files only. -/
lemma inspects_argumentPaths (looks : ∀ text, Inspects (matchingFiles text))
    (cwd argument : String) :
    Inspects (argumentPaths matchingFiles cwd argument) :=
  .ite (.bind (looks _) fun _ => .pure _) (.pure _)

/-- Finding the paths of some arguments looks at the files only. -/
lemma inspects_argumentsPaths (looks : ∀ text, Inspects (matchingFiles text)) (cwd : String)
    (arguments : List String) : Inspects (argumentsPaths matchingFiles cwd arguments) := by
  induction arguments with
  | nil => exact .pure _
  | cons argument rest ih =>
    refine .bind (inspects_argumentPaths looks cwd argument) fun result => ?_
    cases result with
    | error e => exact .pure _
    | ok paths => exact .bind ih fun _ => .pure _

/-- Expanding inputs looks at the files only. -/
lemma inspects_expandInputs (looks : ∀ text, Inspects (matchingFiles text)) (cwd : String)
    (arguments : List String) : Inspects (expandInputs matchingFiles cwd arguments) :=
  .bind (inspects_argumentsPaths looks cwd arguments) fun _ => .pure _

/-! ### The order of inputs -/

/-- Paths that ascend strictly by their bytes. -/
def StrictlyAscending (paths : List FsPath) : Prop :=
  paths.Pairwise fun a b => Text.encode a.text < Text.encode b.text

/-- Sorted paths ascend. -/
lemma pairwise_sort (paths : List FsPath) : (FsPath.sort paths).Pairwise (· ≤ ·) :=
  Text.pairwise_mergeSort FsPath.text paths

/-- Sorting leaves ascending paths as they are. -/
lemma sort_of_pairwise {paths : List FsPath} (h : paths.Pairwise (· ≤ ·)) :
    FsPath.sort paths = paths :=
  List.mergeSort_of_pairwise (h.imp decide_eq_true)

/-- Dropping repeats keeps the order and adds nothing. -/
lemma dropRepeats_sublist (paths : List FsPath) : (dropRepeats paths).Sublist paths := by
  fun_induction dropRepeats paths with
  | case1 q rest ih => exact ih.cons _
  | case2 p q rest different ih => exact ih.cons_cons _
  | case3 paths short => exact .refl _

/-- Sorted paths without repeats among neighbours ascend strictly: a path that comes again later
would also come next. -/
lemma strictlyAscending_dropRepeats {paths : List FsPath} (sorted : paths.Pairwise (· ≤ ·)) :
    StrictlyAscending (dropRepeats paths) := by
  fun_induction dropRepeats paths with
  | case1 q rest ih => exact ih (List.pairwise_cons.1 sorted).2
  | case2 p q rest different ih =>
    obtain ⟨first, others⟩ := List.pairwise_cons.1 sorted
    refine List.pairwise_cons.2 ⟨fun r mem => ?_, ih others⟩
    have least : q.text ≤ r.text := by
      rcases List.mem_cons.1 ((dropRepeats_sublist _).subset mem) with rfl | later
      · exact le_refl _
      · exact (List.pairwise_cons.1 others).1 r later
    have less : p.text < q.text :=
      lt_of_le_of_ne (first q List.mem_cons_self) fun same => different (congrArg FsPath.mk same)
    exact Text.encode_lt (less.trans_le least)
  | case3 paths short =>
    cases paths with
    | nil => exact .nil
    | cons p rest =>
      cases rest with
      | nil => exact List.pairwise_singleton _ _
      | cons q rest => exact absurd rfl (short p q rest)

/-- The inputs are the paths of the arguments, sorted and without repeats. -/
lemma run_expandInputs (cwd : String) (arguments : List String) (s : σ) :
    ((expandInputs matchingFiles cwd arguments).run s).1 =
      ((argumentsPaths matchingFiles cwd arguments).run s).1.map fun paths =>
        dropRepeats (FsPath.sort paths) :=
  rfl

/-- Inputs are expanded if all arguments have paths. -/
lemma expandInputs_eq_ok {cwd : String} {arguments : List String} {paths : List FsPath} {s : σ} :
    ((expandInputs matchingFiles cwd arguments).run s).1 = .ok paths ↔ ∃ found,
      ((argumentsPaths matchingFiles cwd arguments).run s).1 = .ok found ∧
        dropRepeats (FsPath.sort found) = paths := by
  rw [run_expandInputs]
  cases ((argumentsPaths matchingFiles cwd arguments).run s).1 with
  | error e => exact iff_of_false nofun fun ⟨_, absent, _⟩ => nomatch absent
  | ok found => simp only [Except.map, Except.ok.injEq, exists_eq_left']

/-- The inputs of a command ascend strictly. -/
theorem ascending_expandInputs {cwd : String} {arguments : List String} {paths : List FsPath}
    {s : σ}
    (expanded : ((expandInputs matchingFiles cwd arguments).run s).1 = .ok paths) :
    StrictlyAscending paths := by
  obtain ⟨found, -, rfl⟩ := expandInputs_eq_ok.1 expanded
  exact strictlyAscending_dropRepeats (pairwise_sort found)

end CommandLine

end PlaceholderExports
