import PlaceholderExports.Loader
import PlaceholderExports.Proofs.Plugin.Result

/-!
# The stages of a load

A call of `load` takes four steps: it reads the file, looks the contents up in the cache, computes
the result if the cache has none, and stores it. The cache is free for others between any two of
them, so each step gets the cache as it finds it. `Loader.step` is one step in any surroundings, and
`load_eq_steps` says that `Loader.load` is these steps one after the other.

On a terminal, `Loader.Step` is the relation of one step: one rule for each thing that can happen,
with what it needs of the disk and of the cache (`step_run`).
-/

namespace PlaceholderExports

/-- How far a call of `load` has come. -/
inductive LoadStage where
  /-- The file has not been read yet. -/
  | opened
  /-- The file had these contents. -/
  | read (contents : String)
  /-- The cache had no result for the contents. -/
  | missed (contents : String)
  /-- The result was computed, but is not stored yet. -/
  | computed (contents : String) (result : LoadResult)
  /-- The call has returned. -/
  | returned (answer : Except Failure LoadResult)
deriving DecidableEq

namespace Loader

variable {m : Type → Type} [Monad m]

/-- The next step of a call that loads the file under a path. A call that has returned does nothing
more. -/
def step (l : Loader) (h : Host m) (cache : LoadCache) (path : FsPath) :
    LoadStage → m (LoadCache × LoadStage)
  | .opened => do
    match ← l.plugin.read h path with
    | .ok contents => return (cache, .read contents)
    | .error failure => return (cache, .returned (.error failure))
  | .read contents =>
    match cache.get? path (l.digest contents) with
    | some result => return (cache, .returned (.ok result))
    | none => return (cache, .missed contents)
  | .missed contents => do
    match ← l.plugin.loadContents h path contents with
    | .ok result => return (cache, .computed contents result)
    | .error failure => return (cache, .returned (.error failure))
  | .computed contents result =>
    return (cache.insert path (l.digest contents) result, .returned (.ok result))
  | .returned answer => return (cache, .returned answer)

/-- A call whose contents are found in the cache returns what is there. -/
lemma step_read_of_some (l : Loader) (h : Host m) {cache : LoadCache} {path : FsPath}
    {contents : String} {result : LoadResult}
    (lookup : cache.get? path (l.digest contents) = some result) :
    l.step h cache path (.read contents) = pure (cache, .returned (.ok result)) := by
  simp only [step, lookup]

/-- A call whose contents are not found in the cache goes on to compute. -/
lemma step_read_of_none (l : Loader) (h : Host m) {cache : LoadCache} {path : FsPath}
    {contents : String} (lookup : cache.get? path (l.digest contents) = none) :
    l.step h cache path (.read contents) = pure (cache, .missed contents) := by
  simp only [step, lookup]

/-- Some steps of a call, with nobody else in between. -/
def steps (l : Loader) (h : Host m) (path : FsPath) :
    Nat → LoadCache → LoadStage → m (LoadCache × LoadStage)
  | 0, cache, stage => return (cache, stage)
  | n + 1, cache, stage => do
    let (cache, stage) ← l.step h cache path stage
    l.steps h path n cache stage

/-- A call that has returned stays as it is. -/
lemma steps_returned [LawfulMonad m] (l : Loader) (h : Host m) (path : FsPath) (n : Nat)
    (cache : LoadCache) (answer : Except Failure LoadResult) :
    l.steps h path n cache (.returned answer) = pure (cache, .returned answer) := by
  induction n with
  | zero => rfl
  | succ n ih =>
    unfold steps step
    rw [pure_bind]
    exact ih

/-- A call that nobody interrupts reads, looks up, computes and stores. -/
theorem load_eq_steps [LawfulMonad m] (l : Loader) (h : Host m) (cache : LoadCache)
    (path : String) :
    (fun p => (p.1, LoadStage.returned p.2)) <$> l.load h cache path =
      l.steps h (.normalize path) 4 cache .opened := by
  -- what follows the reading of some contents
  have contents : ∀ contents : String,
      (fun p => (p.1, LoadStage.returned p.2)) <$>
          l.loadContents h cache (.normalize path) contents =
        l.steps h (.normalize path) 3 cache (.read contents) := by
    intro contents
    rw [steps]
    unfold loadContents
    cases lookup : cache.get? (.normalize path) (l.digest contents) with
    | some result =>
      dsimp only
      rw [step_read_of_some l h lookup, map_pure, pure_bind]
      exact (steps_returned l h _ 2 cache _).symm
    | none =>
      dsimp only
      rw [step_read_of_none l h lookup, map_bind, pure_bind]
      unfold steps step
      rw [bind_assoc]
      congr 1
      funext outcome
      cases outcome with
      | error failure =>
        dsimp only
        rw [map_pure, pure_bind]
        exact (steps_returned l h _ 1 cache _).symm
      | ok result =>
        dsimp only
        rw [map_pure, pure_bind]
        unfold steps step
        rw [pure_bind]
        rfl
  unfold load
  rw [steps]
  unfold step
  rw [map_bind, bind_assoc]
  congr 1
  funext reading
  cases reading with
  | error failure =>
    dsimp only
    rw [map_pure, pure_bind]
    exact (steps_returned l h _ 3 cache _).symm
  | ok text =>
    dsimp only
    rw [pure_bind]
    exact contents text

/-! ### Steps on a terminal -/

/-- One step of a call, by what can happen: what it finds on the disk and in the cache, the cache
that it leaves, and the stage that it reaches. -/
inductive Step (l : Loader) (disk : Disk) (cache : LoadCache) (path : FsPath) :
    LoadStage → LoadCache → LoadStage → Prop where
  | readOk {contents} :
    disk.read path = .ok contents →
    Step l disk cache path .opened cache (.read contents)
  | readError {e} :
    disk.read path = .error e →
    Step l disk cache path .opened cache (.returned (.error (.store path e)))
  | hit {contents result} :
    cache.get? path (l.digest contents) = some result →
    Step l disk cache path (.read contents) cache (.returned (.ok result))
  | miss {contents} :
    cache.get? path (l.digest contents) = none →
    Step l disk cache path (.read contents) cache (.missed contents)
  | computeOk {contents result} :
    l.plugin.result path contents = .ok result →
    Step l disk cache path (.missed contents) cache (.computed contents result)
  | computeError {contents failure} :
    l.plugin.result path contents = .error failure →
    Step l disk cache path (.missed contents) cache (.returned (.error failure))
  | store {contents result} :
    Step l disk cache path (.computed contents result)
      (cache.insert path (l.digest contents) result) (.returned (.ok result))
  | stay {answer} :
    Step l disk cache path (.returned answer) cache (.returned answer)

/-- A call that has returned stays as it is. -/
lemma Step.eq_returned {l : Loader} {disk : Disk} {cache cache' : LoadCache} {path : FsPath}
    {answer : Except Failure LoadResult} {stage : LoadStage}
    (step : l.Step disk cache path (.returned answer) cache' stage) : stage = .returned answer := by
  cases step with
  | stay => rfl

/-- A step leaves the cache as it is, unless it stores a result and returns it. -/
lemma Step.cache_eq_or_store {l : Loader} {disk : Disk} {cache cache' : LoadCache} {path : FsPath}
    {stage stage' : LoadStage} (step : l.Step disk cache path stage cache' stage') :
    cache' = cache ∨
      ∃ contents result, stage = .computed contents result ∧ stage' = .returned (.ok result) ∧
        cache' = cache.insert path (l.digest contents) result := by
  cases step with
  | @store contents result => exact .inr ⟨contents, result, rfl, rfl, rfl⟩
  | _ => exact .inl rfl

/-- A step on a terminal does one of these things, and leaves the disk as it is. -/
theorem step_run (l : Loader) (t : Terminal) (cache : LoadCache) (path : FsPath)
    (stage : LoadStage) :
    l.Step t.disk cache path stage
        ((l.step (Terminal.shell.host l.logger) cache path stage).run t).1.1
        ((l.step (Terminal.shell.host l.logger) cache path stage).run t).1.2 ∧
      ((l.step (Terminal.shell.host l.logger) cache path stage).run t).2.disk = t.disk := by
  cases stage with
  | opened =>
    unfold step
    rw [StateT.run_bind, Plugin.read_run]
    show Step _ _ _ _ _ ((match (t.disk.read path).mapError (Failure.store path) with
        | .ok contents => (pure (cache, LoadStage.read contents) : StateM Terminal _)
        | .error failure => pure (cache, .returned (.error failure))).run t).1.1 _ ∧ _
    cases read : t.disk.read path with
    | error e => exact ⟨.readError read, rfl⟩
    | ok contents => exact ⟨.readOk read, rfl⟩
  | read contents =>
    cases lookup : cache.get? path (l.digest contents) with
    | some result =>
      rw [step_read_of_some l _ lookup]
      exact ⟨.hit lookup, rfl⟩
    | none =>
      rw [step_read_of_none l _ lookup]
      exact ⟨.miss lookup, rfl⟩
  | missed contents =>
    have disk := Plugin.disk_loadContents l.plugin l.logger t path contents
    have value := Plugin.loadContents_run l.plugin l.logger t path contents
    unfold step
    rw [StateT.run_bind]
    generalize (l.plugin.loadContents (Terminal.shell.host l.logger) path contents).run t = r
      at disk value
    obtain ⟨outcome, after⟩ := r
    cases outcome with
    | error failure => exact ⟨.computeError value.symm, disk⟩
    | ok result => exact ⟨.computeOk value.symm, disk⟩
  | computed contents result => exact ⟨.store, rfl⟩
  | returned answer => exact ⟨.stay, rfl⟩

end Loader

end PlaceholderExports
