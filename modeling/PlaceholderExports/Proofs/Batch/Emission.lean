import Mathlib
import PlaceholderExports.Proofs.Batch.Calls

/-!
# What an emission leaves in memory

In memory the last write under a path counts (`bytes?_foldl_after`). A script never has the path of
a map (`scriptPath_ne_mapPath`), so after an emission the script and the map of a loaded file are
found, unless a later file has the same script (`emission_keeps_outputs`). Two files have the same
script exactly if their places have the same directory part and names with the same stem; so a
file can lose its script to another one (`emission_loses_output`).
-/

namespace PlaceholderExports

open FsPath

/-! ### Writes -/

/-- The files that some calls write, in order, with their bytes. -/
def writes (calls : List StoreCall) : List (FsPath × Text.Bytes) :=
  calls.filterMap fun
    | .ensureDir _ => none
    | .write path text => some (path, Text.encode text)

/-- The files that are written are those of the calls. -/
lemma mem_writes {calls : List StoreCall} {path : FsPath} {bytes : Text.Bytes} :
    (path, bytes) ∈ writes calls ↔ ∃ text, .write path text ∈ calls ∧ Text.encode text = bytes := by
  unfold writes
  rw [List.mem_filterMap]
  constructor
  · rintro ⟨_ | ⟨p, text⟩, mem, found⟩
    · cases found
    · cases found
      exact ⟨text, mem, rfl⟩
  · rintro ⟨text, mem, rfl⟩
    exact ⟨_, mem, rfl⟩

/-- What is written by calls and then by more of them. -/
lemma writes_append (a b : List StoreCall) : writes (a ++ b) = writes a ++ writes b :=
  List.filterMap_append

/-- Some calls leave what their writes leave. -/
lemma foldl_after (calls : List StoreCall) (s : MemoryStore) :
    calls.foldl MemoryStore.after s =
      (writes calls).foldl (fun s (path, bytes) => s.write path bytes) s := by
  induction calls generalizing s with
  | nil => rfl
  | cons call calls ih =>
    cases call with
    | ensureDir path => exact ih s
    | write path text => exact ih _

/-- After some calls, the bytes that were written last are found, or what was there before. -/
lemma bytes?_foldl_after (path : FsPath) (calls : List StoreCall) (s : MemoryStore) :
    (calls.foldl MemoryStore.after s).bytes? path =
      (Assoc.last? path (writes calls)).or (s.bytes? path) := by
  rw [foldl_after, MemoryStore.bytes?_foldl_write]

/-- The calls that write a script write its map, if it has one, and then its text. -/
lemma writes_calls (script : FsPath) (r : LoadResult) :
    writes (r.calls script) =
      (r.map?.toList.map fun map => (mapPath script, Text.encode map.text)) ++
        [(script, Text.encode (r.scriptText script))] := by
  rw [calls_eq_plan]
  unfold LoadResult.plan
  cases r.map? <;> rfl

/-! ### Scripts and maps -/

/-- A script is not the map of another one. -/
lemma scriptPath_ne_mapPath (root outDir : String) (file script : FsPath) :
    scriptPath root outDir file ≠ mapPath script := by
  -- a map ends in `p`, a script in `s` or, without a name, in a slash or a dot
  intro same
  have last : (slashed (outputPath root outDir file.text).toList).getLast? = some 'p' := by
    rw [← toList_normalize]
    change (scriptPath root outDir file).text.toList.getLast? = _
    rw [same]
    unfold mapPath
    rw [String.toList_append, List.getLast?_append]
    rfl
  have last' := ((getLast?_slashed (by decide)).1 last).1
  unfold outputPath withExtension at last'
  rw [String.toList_ofList] at last'
  split at last'
  next none =>
    obtain ⟨n, some⟩ := fileName?_of_getLast? last' (by decide) (by decide)
    rw [none] at some
    cases some
  next => simp at last'

/-- Different scripts have different maps. -/
lemma mapPath_injective {a b : FsPath} (same : mapPath a = mapPath b) : a = b := by
  have text := congrArg (fun p => p.text.toList) same
  unfold mapPath at text
  simp only [String.toList_append] at text
  obtain ⟨a⟩ := a
  obtain ⟨b⟩ := b
  exact congrArg FsPath.mk (String.toList_inj.1 (List.append_cancel_right text))

section Emitted

variable {root outDir : String} {results : List Loaded} {file : FsPath} {r : LoadResult}

/-- An emission writes the scripts and the maps of loaded files. -/
lemma path_of_mem_emissionCalls {path : FsPath} {text : String}
    (mem : .write path text ∈ emissionCalls root outDir results) :
    ∃ file r, (file, .ok r) ∈ results ∧
      (path = mapPath (scriptPath root outDir file) ∨ path = scriptPath root outDir file) := by
  obtain ⟨⟨script, r⟩, entryMem, callMem⟩ := List.mem_flatMap.1 mem
  obtain ⟨file, resultMem, rfl⟩ := mem_emitted.1 entryMem
  refine ⟨file, r, resultMem, ?_⟩
  obtain same | ⟨map, -, same⟩ | same := mem_calls.1 callMem
  · cases same
  · exact .inl (StoreCall.write.inj same).1
  · exact .inr (StoreCall.write.inj same).1

/-- Files with other scripts write neither the script of a file nor its map. -/
lemma last?_of_other_scripts
    (other : ∀ file' r', (file', .ok r') ∈ results →
      scriptPath root outDir file' ≠ scriptPath root outDir file) :
    Assoc.last? (scriptPath root outDir file) (writes (emissionCalls root outDir results)) = none ∧
      Assoc.last? (mapPath (scriptPath root outDir file))
        (writes (emissionCalls root outDir results)) = none := by
  constructor
  · refine Assoc.last?_eq_none fun bytes mem => ?_
    obtain ⟨text, mem, -⟩ := mem_writes.1 mem
    obtain ⟨file', r', resultMem, same | same⟩ := path_of_mem_emissionCalls mem
    · exact scriptPath_ne_mapPath root outDir file _ same
    · exact other file' r' resultMem same.symm
  · refine Assoc.last?_eq_none fun bytes mem => ?_
    obtain ⟨text, mem, -⟩ := mem_writes.1 mem
    obtain ⟨file', r', resultMem, same | same⟩ := path_of_mem_emissionCalls mem
    · exact other file' r' resultMem (mapPath_injective same).symm
    · exact scriptPath_ne_mapPath root outDir file' _ same.symm

/-- The text of a script is written last under its path. -/
lemma last?_script (script : FsPath) (r : LoadResult) :
    Assoc.last? script (writes (r.calls script)) = some (Text.encode (r.scriptText script)) := by
  rw [writes_calls, Assoc.last?_concat, if_pos rfl]

/-- The map of a script is written last under the path of the map. -/
lemma last?_map {map : SourceMap} (hasMap : r.map? = some map) :
    Assoc.last? (mapPath (scriptPath root outDir file))
      (writes (r.calls (scriptPath root outDir file))) = some (Text.encode map.text) := by
  rw [writes_calls, Assoc.last?_concat, if_neg (scriptPath_ne_mapPath root outDir file _).symm,
    hasMap]
  exact Assoc.last?_singleton.trans (if_pos rfl)

/-- The calls for a loaded file stand between those for the files before and after it. -/
lemma emissionCalls_append (root outDir : String) (before after : List Loaded) (file : FsPath)
    (r : LoadResult) :
    emissionCalls root outDir (before ++ (file, .ok r) :: after) =
      emissionCalls root outDir before ++ (r.calls (scriptPath root outDir file) ++
        emissionCalls root outDir after) := by
  unfold emissionCalls emitted
  rw [List.filterMap_append, List.flatMap_append]
  rfl

end Emitted

/-! ### Shared scripts -/

/-- Two files have the same script if their places have the same directory part and names with the
same stem. -/
lemma scriptPath_eq_iff {root outDir : String} {file file' : FsPath} {dir dir' n n' : List Char}
    (p : Place root.toList file.text.toList dir n)
    (p' : Place root.toList file'.text.toList dir' n')
    (noBack : '\\' ∉ dir ++ n) (noBack' : '\\' ∉ dir' ++ n') :
    scriptPath root outDir file = scriptPath root outDir file' ↔ dir = dir' ∧ stem n = stem n' := by
  constructor
  · intro same
    have texts := congrArg (fun p => p.text.toList) same
    simp only [toList_scriptPath p noBack, toList_scriptPath p' noBack',
      List.append_cancel_left_eq] at texts
    obtain ⟨rfl, names⟩ :=
      dir_append_inj p.isDirPart p'.isDirPart p.isName.script.noSlash p'.isName.script.noSlash texts
    exact ⟨rfl, List.append_cancel_right names⟩
  · rintro ⟨rfl, stems⟩
    have texts : (scriptPath root outDir file).text = (scriptPath root outDir file').text := by
      rw [← String.toList_inj, toList_scriptPath p noBack, toList_scriptPath p' noBack', stems]
    exact congrArg FsPath.mk texts

/-! ### Emissions in memory -/

/-- In memory an emission succeeds. Then the script of a loaded file is found, and its map if it has
one, unless a later file has the same script; that is so exactly if the places of the two files have
the same directory part and names with the same stem. -/
theorem emission_keeps_outputs (root outDir : String) (results : List Loaded) (s : Session) :
    let outcome := (Session.host.toFileStore.emit root outDir results).run s
    outcome.1 = .ok ((emitted root outDir results).map (·.1)) ∧
      (∀ before file r after, results = before ++ (file, .ok r) :: after →
        (∀ file' r', (file', .ok r') ∈ after →
          scriptPath root outDir file' ≠ scriptPath root outDir file) →
        outcome.2.store.bytes? (scriptPath root outDir file) =
            some (Text.encode (r.scriptText (scriptPath root outDir file))) ∧
          ∀ map, r.map? = some map →
            outcome.2.store.bytes? (mapPath (scriptPath root outDir file)) =
              some (Text.encode map.text)) ∧
      ∀ file file' dir dir' n n', Place root.toList file.text.toList dir n →
        Place root.toList file'.text.toList dir' n' → '\\' ∉ dir ++ n → '\\' ∉ dir' ++ n' →
        (scriptPath root outDir file = scriptPath root outDir file' ↔
          dir = dir' ∧ stem n = stem n') := by
  intro outcome
  have run : outcome = _ := emit_run root outDir results s
  rw [run]
  refine ⟨rfl, ?outputs, ?shared⟩
  case outputs =>
    intro before file r after split last
    obtain ⟨noScript, noMap⟩ := last?_of_other_scripts last
    dsimp only
    rw [bytes?_foldl_after, split, emissionCalls_append, writes_append, writes_append,
      Assoc.last?_append, Assoc.last?_append, noScript, last?_script]
    refine ⟨rfl, fun map hasMap => ?_⟩
    rw [bytes?_foldl_after, writes_append, writes_append, Assoc.last?_append, Assoc.last?_append,
      noMap, last?_map hasMap]
    rfl
  case shared =>
    intro file file' dir dir' n n' p p' noBack noBack'
    exact scriptPath_eq_iff p p' noBack noBack'

/-- Files of one name in two directories: both scripts are found, and the map of the first one. A
file that differs from it in the extension would have its script. -/
theorem emission_keeps_outputs_two_directories :
    let map : SourceMap := ⟨["/p/a.ts"], ["let a;"]⟩
    let one : LoadResult := { code := "let a;\n", map? := some map, typeOnlyExports := [] }
    let two : LoadResult := { code := "let b;\n", map? := none, typeOnlyExports := [] }
    let results : List Loaded := [(⟨"/p/a.ts"⟩, .ok one), (⟨"/p/src/a.ts"⟩, .ok two)]
    let outcome := (Session.host.toFileStore.emit "/p" "/d" results).run {}
    (∀ file r, (file, .ok r) ∈ [(⟨"/p/src/a.ts"⟩, (.ok two : Except Failure LoadResult))] →
        scriptPath "/p" "/d" file ≠ scriptPath "/p" "/d" ⟨"/p/a.ts"⟩) ∧
      outcome.2.store.bytes? (scriptPath "/p" "/d" ⟨"/p/a.ts"⟩) =
        some (Text.encode "let a;\n\n//# sourceMappingURL=a.js.map\n") ∧
      outcome.2.store.bytes? (mapPath (scriptPath "/p" "/d" ⟨"/p/a.ts"⟩)) =
        some (Text.encode map.text) ∧
      outcome.2.store.bytes? (scriptPath "/p" "/d" ⟨"/p/src/a.ts"⟩) =
        some (Text.encode "let b;\n") ∧
      Place "/p".toList "/p/a.ts".toList [] "a.ts".toList ∧
      Place "/p".toList "/p/a.tsx".toList [] "a.tsx".toList ∧
      scriptPath "/p" "/d" ⟨"/p/a.ts"⟩ = scriptPath "/p" "/d" ⟨"/p/a.tsx"⟩ := by
  intro map one two results outcome
  have other : ∀ file r,
      (file, .ok r) ∈ [(⟨"/p/src/a.ts"⟩, (.ok two : Except Failure LoadResult))] →
        scriptPath "/p" "/d" file ≠ scriptPath "/p" "/d" ⟨"/p/a.ts"⟩ := by
    intro file r mem
    cases List.mem_singleton.1 mem
    decide +kernel
  have place : Place "/p".toList "/p/a.ts".toList [] "a.ts".toList :=
    ⟨by decide +kernel, .inl rfl, nofun, by decide, by decide, by decide⟩
  have place' : Place "/p".toList "/p/a.tsx".toList [] "a.tsx".toList :=
    ⟨by decide +kernel, .inl rfl, nofun, by decide, by decide, by decide⟩
  obtain ⟨-, outputs, shared⟩ := emission_keeps_outputs "/p" "/d" results {}
  obtain ⟨script, maps⟩ := outputs [] ⟨"/p/a.ts"⟩ one _ rfl other
  obtain ⟨script', -⟩ := outputs [(⟨"/p/a.ts"⟩, .ok one)] ⟨"/p/src/a.ts"⟩ two [] rfl nofun
  have text : one.scriptText (scriptPath "/p" "/d" ⟨"/p/a.ts"⟩) =
      "let a;\n\n//# sourceMappingURL=a.js.map\n" := by decide +kernel
  rw [text] at script
  refine ⟨other, script, maps map rfl, script', place, place', ?_⟩
  exact (shared ⟨"/p/a.ts"⟩ ⟨"/p/a.tsx"⟩ _ _ _ _ place place' (by decide) (by decide)).2
    ⟨rfl, by decide⟩

/-- Two files that differ in the extension have the same script, and after an emission the first of
them has lost its own. -/
theorem emission_loses_output :
    let one : LoadResult := { code := "let a;\n", map? := none, typeOnlyExports := [] }
    let two : LoadResult := { code := "let b;\n", map? := none, typeOnlyExports := [] }
    let results : List Loaded := [(⟨"/p/a.ts"⟩, .ok one), (⟨"/p/a.tsx"⟩, .ok two)]
    let outcome := (Session.host.toFileStore.emit "/p" "/d" results).run {}
    (results.map (·.1)).Nodup ∧
      outcome.1 = .ok [⟨"/d/a.js"⟩, ⟨"/d/a.js"⟩] ∧
      scriptPath "/p" "/d" ⟨"/p/a.ts"⟩ = scriptPath "/p" "/d" ⟨"/p/a.tsx"⟩ ∧
      outcome.2.store.bytes? (scriptPath "/p" "/d" ⟨"/p/a.ts"⟩) ≠
        some (Text.encode (one.scriptText (scriptPath "/p" "/d" ⟨"/p/a.ts"⟩))) := by
  decide +kernel

end PlaceholderExports
