import Mathlib
import PlaceholderExports.Proofs.CommandLine.Expansion
import PlaceholderExports.Proofs.Store.Following

/-!
# Arguments that name files

Whether an argument is a name or a pattern is read off its text, and no file is looked at for it. A
name stands for itself, and a pattern for what it matches, which may leave out the file whose name
it is (`expandInputs_misses_named`). It does not leave the file out if the names on the way match
themselves and `**` stands only before ordinary names (`expandInputs_selects_named`).
-/

namespace PlaceholderExports.CommandLine

open FsPath (IsAbsolute)

variable {t : Terminal} {cwd argument : String} {arguments : List String} {paths : List FsPath}

/-- A path below an absolute directory is absolute. -/
lemma isAbsolute_below (absolute : IsAbsolute cwd) (argument : String) :
    IsAbsolute (below cwd argument) := by
  unfold IsAbsolute below
  rw [String.toList_ofList]
  by_cases rooted : argument.toList.head? = some '/'
  · unfold FsPath.append
    rwa [if_pos rooted]
  · rw [FsPath.append_eq_below rooted]
    exact FsPath.head?_below absolute _

/-- Where inputs are expanded, an argument with wildcards is a pattern. -/
lemma exists_glob (expanded : ((expandInputs Terminal.shell.matchingFiles cwd arguments).run t).1 =
      .ok paths) (mem : argument ∈ arguments) (pattern : isPattern argument = true) :
    ∃ glob, Glob.ofText (below cwd argument) = .ok glob := by
  have looks := Terminal.still.matchingFiles
  obtain ⟨found, answered, -⟩ := expandInputs_eq_ok.1 expanded
  obtain ⟨own, answered⟩ := (argumentsPaths_succeeds looks cwd t).1 ⟨found, answered⟩ argument mem
  rw [run_argumentPaths looks, if_pos pattern, Terminal.still.run_matchingFiles] at answered
  cases read : Glob.ofText (below cwd argument) with
  | error e =>
    rw [read] at answered
    cases answered
  | ok glob => exact ⟨glob, rfl⟩

/-- An argument that names a file without wildcards selects it. An argument with wildcards is a
pattern and may be the path of a file too: it selects that file if every name on the way that has a
bracket matches itself, and `**` stands only before ordinary names. -/
theorem expandInputs_selects_named (absolute : IsAbsolute cwd)
    (expanded : ((expandInputs Terminal.shell.matchingFiles cwd arguments).run t).1 = .ok paths)
    (mem : argument ∈ arguments) (isFile : t.disk.isFile ⟨below cwd argument⟩ = true) :
    (isPattern argument = false → FsPath.normalize (below cwd argument) ∈ paths) ∧
      (isPattern argument = true →
        (∀ n ∈ Glob.segmentTexts (below cwd argument).toList,
          '[' ∈ n → Glob.matchesItself n = true) →
        FileTree.starsLead (Glob.segmentTexts (below cwd argument).toList) = true →
        FsPath.normalize (FsPath.withoutEmptySegments ⟨below cwd argument⟩).text ∈ paths) := by
  have selected : ∀ {path : FsPath},
      Selects (Terminal.shell.toFileTree.FindsFile t) cwd argument path → path ∈ paths := by
    intro path selects
    rw [← found_matchingFiles Terminal.still] at selects
    obtain ⟨found, answered, rfl⟩ := expandInputs_eq_ok.1 expanded
    exact (mem_union Terminal.still.matchingFiles answered).2 ⟨argument, mem, selects⟩
  refine ⟨fun plain => selected ?_, fun pattern self stars => selected ?_⟩
  · unfold Selects
    rw [plain]
    exact if_neg Bool.false_ne_true ▸ rfl
  · obtain ⟨glob, read⟩ := exists_glob expanded mem pattern
    obtain ⟨matched, found⟩ :=
      mem_matching_of_isFile ⟨_⟩ (isAbsolute_below absolute argument) isFile read self stars
    unfold Selects
    rw [if_pos pattern]
    exact ⟨glob, read, _, matched, found, rfl⟩

/-- A directory with files whose names have wildcards. Two of them are given as patterns, one of
these in a directory with the name `**`, and another file is given by its name. -/
theorem expandInputs_selects_named_wildcards :
    let t : Terminal :=
      { disk := { entries :=
          [(["w"], .directory), (["w", "a*.ts"], .file []), (["w", "**"], .directory),
           (["w", "**", "*[b]*.ts"], .file []), (["w", "c.ts"], .file [])] } }
    let arguments := ["a*.ts", "**/*[b]*.ts", "c.ts"]
    ∃ paths, ((expandInputs Terminal.shell.matchingFiles "/w" arguments).run t).1 = .ok paths ∧
      ⟨"/w/a*.ts"⟩ ∈ paths ∧ ⟨"/w/**/*[b]*.ts"⟩ ∈ paths ∧ ⟨"/w/c.ts"⟩ ∈ paths := by
  intro t arguments
  obtain ⟨paths, expanded⟩ : ∃ paths,
      ((expandInputs Terminal.shell.matchingFiles "/w" arguments).run t).1 = .ok paths := by
    let found : List FsPath := [⟨"/w/a*.ts"⟩, ⟨"/w/**/*[b]*.ts"⟩, ⟨"/w/c.ts"⟩]
    have answered : ((argumentsPaths Terminal.shell.matchingFiles "/w" arguments).run t).1 =
        .ok found := by decide +kernel
    exact ⟨_, expandInputs_eq_ok.2 ⟨found, answered, rfl⟩⟩
  have absolute : IsAbsolute "/w" := by decide
  have star := (expandInputs_selects_named absolute expanded
    (show "a*.ts" ∈ arguments by decide) (by decide +kernel)).2
    (by decide) (by decide +kernel) (by decide +kernel)
  have bracket := (expandInputs_selects_named absolute expanded
    (show "**/*[b]*.ts" ∈ arguments by decide) (by decide +kernel)).2
    (by decide) (by decide +kernel) (by decide +kernel)
  have plain := (expandInputs_selects_named absolute expanded
    (show "c.ts" ∈ arguments by decide) (by decide +kernel)).1 (by decide)
  have written : FsPath.normalize (FsPath.withoutEmptySegments ⟨below "/w" "a*.ts"⟩).text =
        ⟨"/w/a*.ts"⟩ ∧
      FsPath.normalize (FsPath.withoutEmptySegments ⟨below "/w" "**/*[b]*.ts"⟩).text =
        ⟨"/w/**/*[b]*.ts"⟩ ∧
      FsPath.normalize (below "/w" "c.ts") = ⟨"/w/c.ts"⟩ := by decide +kernel
  rw [written.1] at star
  rw [written.2.1] at bracket
  rw [written.2.2] at plain
  exact ⟨paths, expanded, star, bracket, plain⟩

/-- On this disk each argument is the path of a file, and the expansion leaves the file out: a
bracket opens a class, two stars stand for directories and lead to ordinary names only, and paths
are given in slash form and, where they match a pattern, without empty segments. -/
theorem expandInputs_misses_named :
    let t : Terminal :=
      { disk := { entries :=
          [(["a[1].ts"], .file []), (["**"], .file []), (["b\\c.ts"], .file []),
           (["x"], .directory),
           (["x", "d*.ts"], .file []), (["x", "**"], .directory)] } }
    ∀ argument ∈ ["a[1].ts", "**", "x/**/../d*.ts", "b\\c.ts", "x//d*.ts"],
      t.disk.isFile ⟨below "/" argument⟩ = true ∧
        ∃ paths, ((expandInputs Terminal.shell.matchingFiles "/" [argument]).run t).1 = .ok paths ∧
          ⟨below "/" argument⟩ ∉ paths := by
  intro t
  have missed : ∀ argument ∈ ["a[1].ts", "**", "x/**/../d*.ts", "b\\c.ts", "x//d*.ts"],
      t.disk.isFile ⟨below "/" argument⟩ = true ∧
        (((argumentsPaths Terminal.shell.matchingFiles "/" [argument]).run t).1.toOption.any
          fun found => ⟨below "/" argument⟩ ∉ found) = true := by
    decide +kernel
  intro argument mem
  obtain ⟨isFile, missed⟩ := missed argument mem
  refine ⟨isFile, ?_⟩
  cases answered : ((argumentsPaths Terminal.shell.matchingFiles "/" [argument]).run t).1 with
  | error e =>
    rw [answered] at missed
    cases missed
  | ok found =>
    rw [answered] at missed
    refine ⟨_, expandInputs_eq_ok.2 ⟨found, answered, rfl⟩,
      fun inside => of_decide_eq_true missed ?_⟩
    exact mem_sort.1 (mem_dropRepeats.1 inside)

end PlaceholderExports.CommandLine
