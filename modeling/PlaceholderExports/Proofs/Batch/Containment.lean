import Mathlib
import PlaceholderExports.Proofs.Batch.Calls
import PlaceholderExports.Proofs.FsPath.Resolution

/-!
# Emissions stay below their directory

A script goes strictly below the output directory, if the file has a proper place relative to the
root: it has a name, and behind the root its path is not empty and never leads up beyond it. Then an
emission writes nothing outside the output directory, whatever the store (`emission_stays_below`).

Where the path of a file begins with the root and goes on with `..`, the script goes where the `..`
leads (`outputPath_climbs`).
-/

namespace PlaceholderExports

open FsPath

/-! ### Calls below a directory -/

/-- Whether a call writes strictly below a directory, or makes one in it or below. -/
def StoreCall.StaysBelow (outDir : String) : StoreCall → Prop
  | ensureDir path => IsBelow outDir path.text
  | write path _ => IsStrictlyBelow outDir path.text

/-! ### Scripts below a directory -/

/-- Without backslashes, the script of a file goes to the stem of its name. -/
lemma scriptPath_of_place {root outDir : String} {file : FsPath} {dir name : List Char}
    (p : Place root.toList file.text.toList dir name)
    (chars : ∀ c ∈ dir ++ name, c = '/' ∨ c ∈ file.text.toList)
    (hOut : '\\' ∉ outDir.toList) (hFile : '\\' ∉ file.text.toList) :
    scriptPath root outDir file =
      ⟨String.ofList (below outDir.toList ++ dir ++ (stem name ++ ['.', 'j', 's']))⟩ := by
  have place : '\\' ∉ dir ++ name := by
    intro mem
    obtain slash | inside := chars _ mem
    · cases slash
    · exact hFile inside
  have directory : '\\' ∉ below outDir.toList := by
    intro mem
    obtain slash | inside := mem_below mem
    · cases slash
    · exact hOut inside
  have text := @toList_scriptPath _ outDir _ _ _ p place
  rw [slashed_of_notMem directory, ← List.append_assoc] at text
  exact congrArg FsPath.mk (String.toList_inj.1 (text.trans String.toList_ofList.symm))

/-- The calls that write a script stay below the output directory, if the directory part of its path
never leads above it. -/
lemma staysBelow_calls {outDir : String} {dir n : List Char} (absolute : IsAbsolute outDir)
    (hd : IsDirPart dir) (stays : descends 0 ((solids dir).map Layout.solidComponent))
    (hn : IsName n) (r : LoadResult) :
    ∀ call ∈ r.calls ⟨String.ofList (below outDir.toList ++ dir ++ n)⟩,
      call.StaysBelow outDir := by
  have script := isStrictlyBelow_name absolute hd stays hn
  have map : IsStrictlyBelow outDir
      (mapPath ⟨String.ofList (below outDir.toList ++ dir ++ n)⟩).text := by
    have name : IsName (n ++ ['.', 'm', 'a', 'p']) :=
      isName_append (c := 'p') hn.noSlash (by decide) rfl (by decide)
    -- the path of the map is that of a longer name
    have below := isStrictlyBelow_name absolute hd stays name
    rw [← List.append_assoc, String.ofList_append] at below
    exact below
  have directory : IsBelow outDir
      (dirname (String.ofList (below outDir.toList ++ dir ++ n))) := by
    have below := isBelow_dir absolute hd stays
    have last : (FsPath.below outDir.toList ++ dir).getLast? = some '/' := by
      obtain empty | last := (isDirPart_below outDir.toList).append hd
      · have first := head?_below absolute dir
        rw [empty] at first
        cases first
      · exact last
    unfold IsBelow resolve at below ⊢
    rw [components_dirname (head?_below absolute dir) last hn.noSlash]
    rwa [String.toList_ofList] at below
  intro call mem
  obtain rfl | ⟨m, -, rfl⟩ | rfl := mem_calls.1 mem
  · dsimp only [StoreCall.StaysBelow]
    exact directory
  · exact map
  · exact script

/-- The script of a file with a proper place goes strictly below the output directory. An emission
of loaded files with such places keeps whatever is kept by writing strictly below the output
directory and by making directories in it or below, in any store that may refuse any call. -/
theorem emission_stays_below (root outDir : String) (rootAbsolute : IsAbsolute root)
    (outAbsolute : IsAbsolute outDir) :
    (∀ file, IsWellPlaced root file → IsStrictlyBelow outDir (outputPath root outDir file)) ∧
      ∀ results : List Loaded, '\\' ∉ outDir.toList →
        (∀ file r, (file, .ok r) ∈ results →
          IsWellPlaced root file.text ∧ '\\' ∉ file.text.toList) →
        ∀ {σ : Type} (h : FileStore (StateM σ)) (keeps : σ → Prop),
          (∀ path text s, IsStrictlyBelow outDir path.text → keeps s →
            keeps ((h.write path text).run s).2) →
          (∀ path s, IsBelow outDir path.text → keeps s → keeps ((h.ensureDir path).run s).2) →
          ∀ s, keeps s → keeps ((h.emit root outDir results).run s).2 := by
  refine ⟨fun file wellPlaced => ?_, fun results hOut loaded σ h keeps writes dirs s kept => ?_⟩
  · obtain ⟨dir, name, place, -, stays⟩ := wellPlaced.exists_place rootAbsolute
    rw [outputPath_of_place place]
    exact isStrictlyBelow_name outAbsolute place.isDirPart stays place.isName.script
  · refine emit_keeps h (fun call mem s kept => ?_) kept
    obtain ⟨⟨script, r⟩, emittedMem, callMem⟩ := List.mem_flatMap.1 mem
    obtain ⟨file, resultMem, rfl⟩ := mem_emitted.1 emittedMem
    obtain ⟨wellPlaced, hFile⟩ := loaded file r resultMem
    obtain ⟨dir, name, place, chars, stays⟩ := wellPlaced.exists_place rootAbsolute
    rw [scriptPath_of_place place chars hOut hFile] at callMem
    have below := staysBelow_calls outAbsolute place.isDirPart stays place.isName.script r
      call callMem
    cases call with
    | ensureDir path => exact dirs path s below kept
    | write path text => exact writes path text s below kept

/-- A path with `..` that stays below the root: its script goes below the output directory, and the
emission leaves a script beside that directory alone. -/
theorem emission_stays_below_dotted :
    let file : FsPath := ⟨"/cwd/src/../a.ts"⟩
    let r : LoadResult := { code := "let a;\n", map? := none, typeOnlyExports := [] }
    let beside : FsPath := ⟨"/cwd/a.js"⟩
    let s : Session := { store := .ofFiles [(beside, Text.encode "let b;\n")] }
    IsAbsolute "/cwd" ∧ IsAbsolute "/cwd/dist" ∧ IsWellPlaced "/cwd" file.text ∧
      outputPath "/cwd" "/cwd/dist" file.text = "/cwd/dist/src/../a.js" ∧
      IsStrictlyBelow "/cwd/dist" (outputPath "/cwd" "/cwd/dist" file.text) ∧
      ((Session.host.toFileStore.emit "/cwd" "/cwd/dist" [(file, .ok r)]).run s).2.store.bytes?
        beside = some (Text.encode "let b;\n") := by
  intro file r beside s
  have root : IsAbsolute "/cwd" := by decide
  have out : IsAbsolute "/cwd/dist" := by decide
  have wellPlaced : IsWellPlaced "/cwd" file.text := by
    refine ⟨⟨"a.ts".toList, by decide +kernel⟩, fun rel whole => ?_⟩
    have components : FsPath.components file.text.toList = FsPath.components "/cwd".toList ++
        [.name "src".toList, .parent, .name "a.ts".toList] := by decide +kernel
    rw [components] at whole
    rw [← List.append_cancel_left whole]
    exact ⟨nofun, rfl⟩
  obtain ⟨scripts, emissions⟩ := emission_stays_below "/cwd" "/cwd/dist" root out
  refine ⟨root, out, wellPlaced, by decide +kernel, scripts _ wellPlaced, ?_⟩
  refine emissions [(file, .ok r)] (by decide +kernel) ?_ Session.host.toFileStore
    (fun s => s.store.bytes? beside = some (Text.encode "let b;\n")) ?_ ?_ s (by decide +kernel)
  · intro file' r' mem
    cases List.mem_singleton.1 mem
    exact ⟨wellPlaced, by decide +kernel⟩
  · intro path text s below kept
    -- the script that is there is not below the output directory
    have other : beside ≠ path := by
      rintro rfl
      revert below
      decide +kernel
    show (s.store.write path (Text.encode text)).bytes? beside = _
    rw [MemoryStore.bytes?_write, if_neg other]
    exact kept
  · intro path s _ kept
    exact kept

/-- A file above the root whose path begins with the root: its script goes above the output
directory. -/
theorem outputPath_climbs :
    IsAbsolute "/cwd" ∧ IsAbsolute "/cwd/dist" ∧ IsAbsolute "/cwd/../x.ts" ∧
      outputPath "/cwd" "/cwd/dist" "/cwd/../x.ts" = "/cwd/dist/../x.js" ∧
      ¬ IsStrictlyBelow "/cwd/dist" (outputPath "/cwd" "/cwd/dist" "/cwd/../x.ts") := by
  decide +kernel

end PlaceholderExports
