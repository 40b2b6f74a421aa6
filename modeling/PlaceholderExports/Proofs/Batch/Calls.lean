import Mathlib
import PlaceholderExports.Batch
import PlaceholderExports.Proofs.FsPath.Output
import PlaceholderExports.Proofs.FsPath.SlashForm
import PlaceholderExports.Proofs.Store.MemoryLaws
import PlaceholderExports.Session

/-!
# The calls of an emission

An emission makes three kinds of calls: it makes directories, and it writes maps and scripts
(`mem_calls`). What every call keeps, the emission keeps, also when a call is refused and the rest
are left out (`emit_keeps`). In memory no call is refused, so an emission makes them all
(`emit_run`).
-/

namespace PlaceholderExports

open FsPath

/-! ### Kinds of calls -/

/-- The text of a script: its code and, if it has a source map, the line that names the map. -/
def LoadResult.scriptText (script : FsPath) (r : LoadResult) : String :=
  match r.map? with
  | some _ => r.code ++ ("\n//# sourceMappingURL=" ++ basename (script.text ++ ".map") ++ "\n")
  | none => r.code

/-- What is planned for one script: its directory, its map if it has one, and then the script. -/
def LoadResult.plan (script : FsPath) (r : LoadResult) : List StoreCall :=
  .ensureDir ⟨dirname script.text⟩ ::
    (r.map?.toList.map fun map => .write ⟨script.text ++ ".map"⟩ map.text) ++
    [.write script (r.scriptText script)]

/-- A script is written as it is planned. -/
lemma calls_eq_plan (script : FsPath) (r : LoadResult) : r.calls script = r.plan script := by
  unfold LoadResult.calls LoadResult.plan LoadResult.scriptText
  cases r.map? <;> rfl

/-- The calls that write one script. -/
lemma mem_calls {script : FsPath} {r : LoadResult} {call : StoreCall} :
    call ∈ r.calls script ↔
      call = .ensureDir ⟨dirname script.text⟩ ∨
        (∃ map, r.map? = some map ∧ call = .write (mapPath script) map.text) ∨
        call = .write script (r.scriptText script) := by
  rw [calls_eq_plan]
  unfold LoadResult.plan
  cases r.map? with
  | none => simp
  | some map => simp [mapPath]

/-- The scripts are those of the loaded files, in the order of the results. -/
lemma emitted_eq (root outDir : String) (results : List Loaded) :
    emitted root outDir results = results.filterMap fun (file, result) =>
      result.toOption.map fun r => (FsPath.normalize (outputPath root outDir file.text), r) := by
  unfold emitted
  apply List.filterMap_congr
  rintro ⟨file, result⟩ -
  cases result <;> rfl

/-- A script is written for every loaded file. -/
lemma mem_emitted {root outDir : String} {results : List Loaded} {script : FsPath}
    {r : LoadResult} : (script, r) ∈ emitted root outDir results ↔
      ∃ file, (file, .ok r) ∈ results ∧ scriptPath root outDir file = script := by
  unfold emitted
  rw [List.mem_filterMap]
  constructor
  · rintro ⟨⟨file, _ | r'⟩, mem, found⟩
    · cases found
    · cases found
      exact ⟨file, mem, rfl⟩
  · rintro ⟨file, mem, rfl⟩
    exact ⟨(file, .ok r), mem, rfl⟩

/-- The text of a script: the slash form of the output directory and behind it the place of the
file, under the stem of its name. -/
lemma toList_scriptPath {root outDir : String} {file : FsPath} {dir n : List Char}
    (p : Place root.toList file.text.toList dir n) (noBack : '\\' ∉ dir ++ n) :
    (scriptPath root outDir file).text.toList =
      slashed (below outDir.toList) ++ (dir ++ (stem n ++ ['.', 'j', 's'])) := by
  rw [List.mem_append, not_or] at noBack
  have inSlashForm : '\\' ∉ dir ++ (stem n ++ ['.', 'j', 's']) := by
    simp only [List.mem_append, not_or]
    exact ⟨noBack.1, notMem_stem noBack.2, by decide⟩
  unfold scriptPath
  rw [toList_normalize, outputPath_of_place p, String.toList_ofList, List.append_assoc]
  conv_rhs => rw [← slashed_of_notMem inSlashForm]
  exact List.map_append

/-! ### Making calls -/

section Keeping

variable {σ : Type} (h : FileStore (StateM σ)) {keeps : σ → Prop}

/-- What each of some calls keeps is kept by all of them, also when one is refused. -/
lemma perform_keeps {calls : List StoreCall}
    (each : ∀ call ∈ calls, ∀ s, keeps s → keeps ((h.call call).run s).2) {s : σ} (kept : keeps s) :
    keeps ((h.perform calls).run s).2 := by
  induction calls generalizing s with
  | nil => exact kept
  | cons call calls ih =>
    have first := each call List.mem_cons_self s kept
    unfold FileStore.perform
    rw [StateT.run_bind]
    generalize (h.call call).run s = outcome at first ⊢
    obtain ⟨answer, s'⟩ := outcome
    cases answer with
    | error cause => exact first -- the other calls are left out
    | ok => exact ih (fun call' mem => each call' (List.mem_cons_of_mem call mem)) first

/-- What the calls of an emission keep is kept by the emission. -/
lemma emit_keeps {root outDir : String} {results : List Loaded}
    (each : ∀ call ∈ emissionCalls root outDir results, ∀ s, keeps s →
      keeps ((h.call call).run s).2) {s : σ} (kept : keeps s) :
    keeps ((h.emit root outDir results).run s).2 := by
  have performed := perform_keeps h each kept
  unfold FileStore.emit
  rw [StateT.run_bind]
  generalize (h.perform (emissionCalls root outDir results)).run s = outcome at performed ⊢
  obtain ⟨answer, s'⟩ := outcome
  cases answer <;> exact performed

end Keeping

/-! ### In memory -/

/-- A store in memory after a call. -/
def MemoryStore.after (s : MemoryStore) : StoreCall → MemoryStore
  | .ensureDir _ => s
  | .write path text => s.write path (Text.encode text)

/-- In memory every call is made. -/
lemma perform_run (calls : List StoreCall) (s : Session) :
    (Session.host.toFileStore.perform calls).run s =
      (.ok (), { s with store := calls.foldl MemoryStore.after s.store }) := by
  induction calls generalizing s with
  | nil => rfl
  | cons call calls ih =>
    unfold FileStore.perform
    rw [StateT.run_bind]
    cases call with
    | ensureDir path => exact ih s
    | write path text => exact ih _

/-- In memory an emission makes all of its calls, and gives the paths of the scripts. -/
lemma emit_run (root outDir : String) (results : List Loaded) (s : Session) :
    (Session.host.toFileStore.emit root outDir results).run s =
      (.ok ((emitted root outDir results).map (·.1)),
        { s with
          store := (emissionCalls root outDir results).foldl MemoryStore.after s.store }) := by
  unfold FileStore.emit
  rw [StateT.run_bind, perform_run]
  rfl

end PlaceholderExports
