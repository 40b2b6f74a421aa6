import Mathlib
import PlaceholderExports.Proofs.CommandLine.Inputs
import PlaceholderExports.Proofs.Results

/-!
# What arguments stand for

An argument stands for a set of paths (`Selects`): a pattern for the files that match it, any other
argument for the path that it names. Which files match is said by a function that looks at files and
leaves them as they are (`Found`); on a file tree these are the files among the paths that the tree
matches (`FileTree.FindsFile`). The expanded inputs are the union of these sets, and since they
ascend strictly they depend on nothing else: neither on the order of the arguments nor on how often
one is given (`expandInputs_enumerates_union`).
-/

namespace PlaceholderExports

/-- Whether a path is that of a file which matches a pattern, in a state of a file tree. -/
def FileTree.FindsFile {σ : Type} (t : FileTree (StateM σ)) (s : σ) (text : String)
    (path : FsPath) : Prop :=
  ∃ glob, Glob.ofText text = .ok glob ∧
    ∃ q ∈ ((t.matching glob).run s).1, ((t.isFile q).run s).1 = true ∧ path = .normalize q.text

/-- What a file tree that stays as it is gives for a pattern text. -/
lemma FileTree.Still.run_matchingFiles {σ : Type} {t : FileTree (StateM σ)} (still : t.Still)
    (text : String) (s : σ) :
    ((t.matchingFiles text).run s).1 = (Glob.ofText text).map fun glob =>
      (((t.matching glob).run s).1.filter fun q => ((t.isFile q).run s).1).map fun q =>
        FsPath.normalize q.text := by
  unfold FileTree.matchingFiles
  cases Glob.ofText text with
  | error e => rfl
  | ok glob =>
    dsimp only
    rw [(still.matching glob).run_bind, (Inspects.filterM still.isFile _).run_bind,
      Inspects.run_filterM still.isFile]
    rfl

namespace CommandLine

/-! ### Lists without order -/

/-- None of several strictly ascending paths comes twice. -/
lemma StrictlyAscending.nodup {paths : List FsPath} (h : StrictlyAscending paths) :
    paths.Nodup := by
  refine List.Pairwise.imp ?_ h
  rintro p _ less rfl
  exact List.lt_irrefl _ less

/-- Strictly ascending paths are determined by which ones they are. -/
lemma StrictlyAscending.ext {paths paths' : List FsPath} (h : StrictlyAscending paths)
    (h' : StrictlyAscending paths') (same : ∀ path, path ∈ paths ↔ path ∈ paths') :
    paths = paths' := by
  refine List.Perm.eq_of_pairwise (fun p q _ _ less greater => ?_) h h'
    ((List.perm_ext_iff_of_nodup h.nodup h'.nodup).2 same)
  exact absurd greater (List.lt_asymm less)

/-- Sorting keeps all paths. -/
lemma mem_sort {path : FsPath} {paths : List FsPath} : path ∈ FsPath.sort paths ↔ path ∈ paths :=
  List.mem_mergeSort

/-- A repeat that is dropped is kept by its neighbour. -/
lemma mem_dropRepeats {path : FsPath} {paths : List FsPath} :
    path ∈ dropRepeats paths ↔ path ∈ paths := by
  fun_induction dropRepeats paths with
  | case1 q rest ih => simp only [ih, List.mem_cons, or_self_left]
  | case2 p q rest different ih => rw [List.mem_cons, List.mem_cons, ih]
  | case3 paths short => rfl

/-! ### Arguments one by one -/

section

variable {σ : Type} {matchingFiles : String → StateM σ (Except Glob.PatternError (List FsPath))}
  (looks : ∀ text, Inspects (matchingFiles text)) (cwd : String) (s : σ)

include looks

/-- The paths of an argument, without the state. -/
lemma run_argumentPaths (argument : String) :
    ((argumentPaths matchingFiles cwd argument).run s).1 =
      if isPattern argument then
        ((matchingFiles (below cwd argument)).run s).1.mapError fun cause => { argument, cause }
      else .ok [.normalize (below cwd argument)] := by
  unfold argumentPaths
  split_ifs
  · rw [(looks _).run_bind]
    rfl
  · rfl

/-- The paths of some arguments are those of the first and then those of the others. -/
lemma run_argumentsPaths_cons (argument : String) (rest : List String) :
    ((argumentsPaths matchingFiles cwd (argument :: rest)).run s).1 = do
      let own ← ((argumentPaths matchingFiles cwd argument).run s).1
      let others ← ((argumentsPaths matchingFiles cwd rest).run s).1
      return own ++ others := by
  rw [argumentsPaths, (inspects_argumentPaths looks cwd argument).run_bind]
  cases ((argumentPaths matchingFiles cwd argument).run s).1 with
  | error e => rfl
  | ok own =>
    dsimp only
    rw [(inspects_argumentsPaths looks cwd rest).run_bind]
    cases ((argumentsPaths matchingFiles cwd rest).run s).1 <;> rfl

/-- Arguments have paths if each of them has. -/
lemma argumentsPaths_succeeds {arguments : List String} :
    (∃ paths, ((argumentsPaths matchingFiles cwd arguments).run s).1 = .ok paths) ↔
      ∀ argument ∈ arguments, ∃ own,
        ((argumentPaths matchingFiles cwd argument).run s).1 = .ok own := by
  induction arguments with
  | nil => exact iff_of_true ⟨[], rfl⟩ nofun
  | cons argument rest ih =>
    rw [List.forall_mem_cons, ← ih, run_argumentsPaths_cons looks]
    simp only [bind_eq_ok]
    constructor
    · rintro ⟨_, own, first, others, later, -⟩
      exact ⟨⟨own, first⟩, others, later⟩
    · rintro ⟨⟨own, first⟩, others, later⟩
      exact ⟨own ++ others, own, first, others, later, rfl⟩

/-- The paths of arguments are those of each of them. -/
lemma mem_argumentsPaths {arguments : List String} {paths : List FsPath}
    (found : ((argumentsPaths matchingFiles cwd arguments).run s).1 = .ok paths) {path : FsPath} :
    path ∈ paths ↔ ∃ argument ∈ arguments, ∃ own,
      ((argumentPaths matchingFiles cwd argument).run s).1 = .ok own ∧ path ∈ own := by
  induction arguments generalizing paths with
  | nil =>
    cases found
    exact iff_of_false List.not_mem_nil fun ⟨_, mem, _⟩ => List.not_mem_nil mem
  | cons argument rest ih =>
    rw [run_argumentsPaths_cons looks] at found
    obtain ⟨own, first, found⟩ := bind_eq_ok.1 found
    obtain ⟨others, later, found⟩ := bind_eq_ok.1 found
    cases found
    rw [List.mem_append, ih later]
    simp only [List.mem_cons, exists_eq_or_imp, first, Except.ok.injEq, exists_eq_left']

end

/-! ### The union -/

section

variable {σ : Type} {matchingFiles : String → StateM σ (Except Glob.PatternError (List FsPath))}

/-- Whether an argument stands for a path, where `found` says what the patterns match. -/
def Selects (found : String → FsPath → Prop) (cwd argument : String) (path : FsPath) : Prop :=
  if isPattern argument then found (below cwd argument) path
  else path = .normalize (below cwd argument)

/-- Whether a path is among those that a function gives for a text. -/
def Found (matchingFiles : String → StateM σ (Except Glob.PatternError (List FsPath))) (s : σ)
    (text : String) (path : FsPath) : Prop :=
  ∃ own, ((matchingFiles text).run s).1 = .ok own ∧ path ∈ own

/-- The paths of an argument are those that it stands for. -/
lemma selects_iff (looks : ∀ text, Inspects (matchingFiles text)) {s : σ} {cwd argument : String}
    {path : FsPath} :
    Selects (Found matchingFiles s) cwd argument path ↔ ∃ own,
      ((argumentPaths matchingFiles cwd argument).run s).1 = .ok own ∧ path ∈ own := by
  unfold Selects Found
  rw [run_argumentPaths looks]
  split_ifs
  · cases ((matchingFiles (below cwd argument)).run s).1 with
    | error e =>
      exact iff_of_false (fun ⟨_, absent, _⟩ => nomatch absent) fun ⟨_, absent, _⟩ => nomatch absent
    | ok own => simp only [Except.mapError, Except.ok.injEq, exists_eq_left']
  · simp only [Except.ok.injEq, exists_eq_left', List.mem_singleton]

/-- The inputs are the paths that some argument stands for. -/
lemma mem_union (looks : ∀ text, Inspects (matchingFiles text)) {s : σ} {cwd : String}
    {arguments : List String} {found : List FsPath}
    (answered : ((argumentsPaths matchingFiles cwd arguments).run s).1 = .ok found)
    {path : FsPath} :
    path ∈ dropRepeats (FsPath.sort found) ↔
      ∃ argument ∈ arguments, Selects (Found matchingFiles s) cwd argument path := by
  rw [mem_dropRepeats, mem_sort, mem_argumentsPaths looks cwd s answered]
  exact exists_congr fun argument => and_congr_right fun _ => (selects_iff looks).symm

/-- A file tree that stays as it is finds the files among the matches of a pattern. -/
lemma found_matchingFiles {t : FileTree (StateM σ)} (still : t.Still) (s : σ) :
    Found t.matchingFiles s = t.FindsFile s := by
  funext text path
  unfold Found FileTree.FindsFile
  rw [still.run_matchingFiles]
  cases Glob.ofText text with
  | error e =>
    exact propext (iff_of_false (fun ⟨_, absent, _⟩ => nomatch absent)
      fun ⟨_, absent, _⟩ => nomatch absent)
  | ok glob =>
    simp only [Except.ok.injEq, exists_eq_left', Except.map, List.mem_map, List.mem_filter,
      and_assoc, @eq_comm _ path]

/-- The expanded inputs ascend strictly by their bytes, none comes twice, and they are all the paths
that some argument stands for, whatever function finds the files of a pattern. So the same arguments
in another order, some of them repeated, have the same inputs. On a file tree a pattern stands for
the files among the paths that it matches. -/
theorem expandInputs_enumerates_union (looks : ∀ text, Inspects (matchingFiles text)) {s : σ}
    {cwd : String} {arguments : List String} {paths : List FsPath}
    (expanded : ((expandInputs matchingFiles cwd arguments).run s).1 = .ok paths) :
    StrictlyAscending paths ∧ paths.Nodup ∧
      (∀ path, path ∈ paths ↔
        ∃ argument ∈ arguments, Selects (Found matchingFiles s) cwd argument path) ∧
      (∀ arguments', (∀ argument, argument ∈ arguments' ↔ argument ∈ arguments) →
        ((expandInputs matchingFiles cwd arguments').run s).1 = .ok paths) ∧
      ∀ t : FileTree (StateM σ), t.Still → t.matchingFiles = matchingFiles →
        ∀ path, path ∈ paths ↔
          ∃ argument ∈ arguments, Selects (t.FindsFile s) cwd argument path := by
  have ascending := ascending_expandInputs expanded
  obtain ⟨found, answered, rfl⟩ := expandInputs_eq_ok.1 expanded
  have union (path : FsPath) : path ∈ dropRepeats (FsPath.sort found) ↔
      ∃ argument ∈ arguments, Selects (Found matchingFiles s) cwd argument path :=
    mem_union looks answered
  refine ⟨ascending, ascending.nodup, union, fun arguments' same => ?_,
    fun t still finds path => ?_⟩
  case refine_1 =>
    -- every argument has its paths in both lists, so the other expansion succeeds too
    obtain ⟨found', answered'⟩ : ∃ found',
        ((argumentsPaths matchingFiles cwd arguments').run s).1 = .ok found' := by
      refine (argumentsPaths_succeeds looks cwd s).2 fun argument mem => ?_
      exact (argumentsPaths_succeeds looks cwd s).1 ⟨found, answered⟩ argument
        ((same argument).1 mem)
    have expanded' := expandInputs_eq_ok.2 ⟨found', answered', rfl⟩
    rw [expanded']
    refine congrArg Except.ok ((ascending_expandInputs expanded').ext ascending fun path => ?_)
    rw [mem_union looks answered', union]
    exact exists_congr fun argument => and_congr_left fun _ => same argument
  case refine_2 =>
    subst finds
    rw [union, found_matchingFiles still]

/-- A directory with two modules and a directory whose name ends like theirs. A pattern and a name
overlap, and another name has no file; the second expansion has them in another order, and twice. -/
theorem expandInputs_enumerates_union_overlapping :
    let t : Terminal :=
      { disk := { entries :=
          [(["b.ts"], .file []), (["d.ts"], .directory), (["a.ts"], .file [])] } }
    let expand (arguments : List String) :=
      ((expandInputs Terminal.shell.matchingFiles "/" arguments).run t).1
    let paths : List FsPath := [⟨"/a.ts"⟩, ⟨"/b.ts"⟩, ⟨"/no.ts"⟩]
    expand ["*.ts", "b.ts", "no.ts"] = .ok paths ∧ StrictlyAscending paths ∧ paths.Nodup ∧
      (∀ path, path ∈ paths ↔ ∃ argument ∈ ["*.ts", "b.ts", "no.ts"],
        Selects (Found Terminal.shell.matchingFiles t) "/" argument path) ∧
      expand ["no.ts", "b.ts", "*.ts", "b.ts"] = .ok paths ∧
      (∀ path, path ∈ paths ↔ ∃ argument ∈ ["*.ts", "b.ts", "no.ts"],
        Selects (Terminal.shell.toFileTree.FindsFile t) "/" argument path) := by
  intro t expand paths
  have expanded : expand ["*.ts", "b.ts", "no.ts"] = .ok paths := by
    let found : List FsPath := [⟨"/b.ts"⟩, ⟨"/a.ts"⟩, ⟨"/b.ts"⟩, ⟨"/no.ts"⟩]
    have answered : ((argumentsPaths Terminal.shell.matchingFiles "/"
        ["*.ts", "b.ts", "no.ts"]).run t).1 = .ok found := by decide +kernel
    have ascending : StrictlyAscending paths := by
      unfold StrictlyAscending
      decide +kernel
    refine expandInputs_eq_ok.2 ⟨found, answered,
      (strictlyAscending_dropRepeats (pairwise_sort found)).ext ascending fun path => ?_⟩
    rw [mem_dropRepeats, mem_sort]
    simp only [found, paths, List.mem_cons, List.not_mem_nil, or_false]
    tauto
  obtain ⟨ascending, nodup, union, same, onTree⟩ :=
    expandInputs_enumerates_union Terminal.still.matchingFiles expanded
  refine ⟨expanded, ascending, nodup, union, same _ fun argument => ?_, onTree _ Terminal.still rfl⟩
  simp only [List.mem_cons, List.not_mem_nil, or_false]
  tauto

end

end CommandLine

end PlaceholderExports
