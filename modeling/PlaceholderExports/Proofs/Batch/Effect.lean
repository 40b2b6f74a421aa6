import PlaceholderExports.Proofs.Batch.Emission

/-!
# The effect of an emission

What an emission does to the files in memory, path by path. Under the path of a script there is the
last script that goes there, and under the path of a map the last map that goes there; a script
without a map leaves an earlier map as it is. A script never has the path of a map, so one path is
never asked for both (`last?_scripts`). Under every other path there is what was there before.

`emission_effect` is the main result.
-/

namespace PlaceholderExports

open FsPath

/-- The source maps of some scripts, with where they go. -/
def mapsOf (scripts : List (FsPath × LoadResult)) : List (FsPath × SourceMap) :=
  scripts.filterMap fun (script, r) => r.map?.map fun map => (⟨script.text ++ ".map"⟩, map)

section Last

variable {scripts : List (FsPath × LoadResult)}

/-- The calls that write a script leave its text under its path, and under another path its map. -/
lemma last?_calls (script path : FsPath) (r : LoadResult) :
    Assoc.last? path (writes (r.calls script)) =
      if path = script then some (Text.encode (r.scriptText path))
      else (Assoc.last? path (mapsOf [(script, r)])).map fun map => Text.encode map.text := by
  rw [writes_calls, Assoc.last?_concat]
  by_cases own : path = script
  · rw [if_pos own, if_pos own, own]
  rw [if_neg own, if_neg own]
  unfold mapsOf
  cases hasMap : r.map? with
  | none => simp [hasMap, Assoc.last?]
  | some map =>
    simp only [List.filterMap_cons, List.filterMap_nil, hasMap, Option.map_some, Option.toList_some,
      List.map_cons, List.map_nil]
    show Assoc.last? path [(mapPath script, _)] = (Assoc.last? path [(mapPath script, map)]).map _
    rw [Assoc.last?_singleton, Assoc.last?_singleton]
    split_ifs <;> rfl

/-- What some scripts leave under a path is the text of the last script there, or else the last
map. -/
lemma last?_scripts (apart : ∀ a ∈ scripts, ∀ b ∈ scripts, a.1 ≠ mapPath b.1) (path : FsPath) :
    Assoc.last? path (writes (scripts.flatMap fun (script, r) => r.calls script)) =
      ((Assoc.last? path scripts).map fun r => Text.encode (r.scriptText path)).or
        ((Assoc.last? path (mapsOf scripts)).map fun map => Text.encode map.text) := by
  induction scripts using List.reverseRecOn with
  | nil => rfl
  | append_singleton scripts entry ih =>
    obtain ⟨script, r⟩ := entry
    have ih := ih fun a ha b hb =>
      apart a (List.mem_append_left _ ha) b (List.mem_append_left _ hb)
    have maps : mapsOf (scripts ++ [(script, r)]) = mapsOf scripts ++ mapsOf [(script, r)] :=
      List.filterMap_append
    rw [List.flatMap_append, writes_append, Assoc.last?_append, ih, List.flatMap_singleton,
      last?_calls, Assoc.last?_concat, maps, Assoc.last?_append]
    by_cases own : path = script
    · rw [if_pos own, if_pos own]
      rfl
    rw [if_neg own, if_neg own]
    cases ownMap : Assoc.last? path (mapsOf [(script, r)]) with
    | none => rfl
    | some map =>
      -- no script has the path of this map
      have noScript : Assoc.last? path scripts = none := by
        refine Assoc.last?_eq_none fun r' mem => ?_
        obtain ⟨map', mapMem⟩ := Assoc.isSome_last?.1 (Option.isSome_of_eq_some ownMap)
        obtain ⟨⟨_, _⟩, entryMem, found⟩ := List.mem_filterMap.1 mapMem
        obtain ⟨_, -, same⟩ := Option.map_eq_some_iff.1 found
        have mapped : mapPath script = path := by
          cases List.mem_singleton.1 entryMem
          exact (Prod.mk.inj same).1
        exact apart (path, r') (List.mem_append_left _ mem) (script, r) (by simp) mapped.symm
      rw [noScript]
      rfl

end Last

/-- Results of files that could not be loaded add nothing to what is emitted. -/
lemma emitted_filter_isOk (root outDir : String) (results : List Loaded) :
    emitted root outDir (results.filter (·.2.isOk)) = emitted root outDir results := by
  unfold emitted
  rw [List.filterMap_filter]
  apply List.filterMap_congr
  rintro ⟨file, result⟩ -
  cases result with
  | error failure => rfl
  | ok r => rfl

/-- An emission in memory succeeds and gives the paths of the scripts of all files that were loaded.
Then there is under every path the last script that goes there, with the line that names its map if
it has one; or else the last map that goes there; or else what was there before. No script has the
path of a map, and files that could not be loaded make no difference. -/
theorem emission_effect (root outDir : String) (results : List Loaded) (s : Session) :
    let script := fun file : FsPath => FsPath.normalize (outputPath root outDir file.text)
    let map := fun file : FsPath => (⟨(script file).text ++ ".map"⟩ : FsPath)
    let scripts := results.filterMap fun (file, result) =>
      result.toOption.map fun r => (script file, r)
    let maps := results.filterMap fun (file, result) =>
      result.toOption.bind fun r => r.map?.map fun m => (map file, m)
    let outcome := (Session.host.toFileStore.emit root outDir results).run s
    outcome.1 = .ok (scripts.map (·.1)) ∧
      (∀ path, outcome.2.store.bytes? path =
        match Assoc.last? path scripts, Assoc.last? path maps with
        | some r, _ =>
          some (Text.encode (match r.map? with
            | some _ =>
              r.code ++ ("\n//# sourceMappingURL=" ++ basename (path.text ++ ".map") ++ "\n")
            | none => r.code))
        | none, some m => some (Text.encode m.text)
        | none, none => s.store.bytes? path) ∧
      (∀ file file', script file ≠ map file') ∧
      (Session.host.toFileStore.emit root outDir (results.filter (·.2.isOk))).run s = outcome := by
  intro script map scripts maps outcome
  have scripts_eq : emitted root outDir results = scripts := emitted_eq root outDir results
  have maps_eq : mapsOf scripts = maps := by
    show (results.filterMap _).filterMap _ = _
    rw [List.filterMap_filterMap]
    apply List.filterMap_congr
    rintro ⟨file, result⟩ -
    cases result <;> rfl
  have run : outcome = _ := emit_run root outDir results s
  refine ⟨by rw [run, scripts_eq], fun path => ?_,
    fun _ _ => scriptPath_ne_mapPath root outDir _ _, ?_⟩
  · have apart : ∀ a ∈ scripts, ∀ b ∈ scripts, a.1 ≠ mapPath b.1 := by
      rintro ⟨_, r⟩ mem b -
      obtain ⟨file, -, rfl⟩ := mem_emitted.1 (scripts_eq ▸ mem)
      exact scriptPath_ne_mapPath root outDir file _
    have calls_eq : emissionCalls root outDir results =
        scripts.flatMap fun (script, r) => r.calls script := by
      unfold emissionCalls
      rw [scripts_eq]
    rw [run]
    dsimp only
    rw [bytes?_foldl_after, calls_eq, last?_scripts apart path, maps_eq]
    cases Assoc.last? path scripts with
    | some r => rfl
    | none => cases Assoc.last? path maps <;> rfl
  · rw [emit_run, run]
    unfold emissionCalls
    rw [emitted_filter_isOk]

/-- Four files, of which one could not be loaded and two have the same script. The later of these
two counts, which has no map, so the map of the earlier one stays beside it. What was there for the
file that failed is untouched. -/
theorem emission_effect_shared_script :
    let map : SourceMap := ⟨["/p/a.ts"], ["let a;"]⟩
    let map' : SourceMap := ⟨["/p/src/b.ts"], ["let c;"]⟩
    let results : List Loaded :=
      [(⟨"/p/a.ts"⟩, .ok ⟨"let a;\n", some map, []⟩),
       (⟨"/p/bad.ts"⟩, .error (.parse ⟨"/p/bad.ts"⟩ [])),
       (⟨"/p/a.tsx"⟩, .ok ⟨"let b;\n", none, []⟩),
       (⟨"/p/src/b.ts"⟩, .ok ⟨"let c;\n", some map', []⟩)]
    let s : Session := { store := .ofFiles [(⟨"/d/bad.js"⟩, Text.encode "old")] }
    let outcome := (Session.host.toFileStore.emit "/p" "/d" results).run s
    outcome.1 = .ok [⟨"/d/a.js"⟩, ⟨"/d/a.js"⟩, ⟨"/d/src/b.js"⟩] ∧
      outcome.2.store.bytes? ⟨"/d/a.js"⟩ = some (Text.encode "let b;\n") ∧
      outcome.2.store.bytes? ⟨"/d/a.js.map"⟩ =
        some (Text.encode ("\x7b\"version\":3,\"names\":[],\"sources\":[\"/p/a.ts\"]," ++
          "\"sourcesContent\":[\"let a;\"],\"mappings\":\"\"\x7d")) ∧
      outcome.2.store.bytes? ⟨"/d/src/b.js"⟩ =
        some (Text.encode "let c;\n\n//# sourceMappingURL=b.js.map\n") ∧
      outcome.2.store.bytes? ⟨"/d/src/b.js.map"⟩ = some (Text.encode map'.text) ∧
      outcome.2.store.bytes? ⟨"/d/bad.js"⟩ = some (Text.encode "old") := by
  intro map map' results s outcome
  obtain ⟨paths, bytes, -, -⟩ := emission_effect "/p" "/d" results s
  refine ⟨paths.trans ?_, (bytes _).trans ?_, (bytes _).trans ?_, (bytes _).trans ?_,
    (bytes _).trans ?_, (bytes _).trans ?_⟩ <;> decide +kernel

end PlaceholderExports
