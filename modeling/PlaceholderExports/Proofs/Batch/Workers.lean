import PlaceholderExports.Batch
import PlaceholderExports.Proofs.Plugin.EntryPoints
import PlaceholderExports.Store.Terminal

/-!
# Workers

The modules of a batch are loaded at the same time, each by a worker of its own. The workers share
their surroundings, and a schedule says which of them takes its next step: first a worker reads its
file, then it loads the text that it has read. `load_eq_workSteps` says that these two steps, one
after the other, are `Plugin.load`.

In surroundings that keep the files as they are (`Host.KeepsFiles`), no step changes what another
worker reads (`run_workStep`). So in a run of any schedule every worker stays at a stage that its
file alone accounts for (`Pool.sound_run`), and it is done after two steps of its own
(`Pool.isDone_run`).
-/

namespace PlaceholderExports

/-- Surroundings in which reading, logging and asking for the time keep the files as they are. -/
structure Host.KeepsFiles {σ : Type} (h : Host (StateM σ))
    (files : σ → FsPath → Except StoreError String) : Prop where
  read_eq : ∀ path s, ((h.read path).run s).1 = files s path
  read : ∀ path s, files ((h.read path).run s).2 = files s
  log : ∀ entry s, files ((h.log entry).run s).2 = files s
  clock : ∀ s, files (h.clock.run s).2 = files s

/-- A session keeps its files. -/
lemma Session.keepsFiles : Session.host.KeepsFiles fun s => s.store.read :=
  ⟨fun _ _ => rfl, fun _ _ => rfl, fun _ _ => rfl, fun _ => rfl⟩

/-- A terminal keeps the files of its disk. -/
lemma Terminal.keepsFiles (logger : Logger) :
    (Terminal.shell.host logger).KeepsFiles fun t => t.disk.read := by
  refine ⟨fun _ _ => rfl, fun _ _ => rfl, fun entry t => ?_, fun _ => rfl⟩
  unfold Shell.host
  dsimp only
  cases logger.line? entry <;> rfl

/-- How far a worker has come. -/
inductive WorkStage where
  /-- The file has not been read yet. -/
  | waiting
  /-- The file had these contents. -/
  | read (contents : String)
  /-- The module has been loaded, or has failed to load. -/
  | done (result : Except Failure LoadResult)

namespace WorkStage

/-- The result of a worker that is done. -/
def result? : WorkStage → Option (Except Failure LoadResult)
  | waiting | read _ => none
  | done result => some result

/-- The steps that a worker has still to take at most. -/
def remaining : WorkStage → Nat
  | waiting => 2
  | read _ => 1
  | done _ => 0

/-- A worker without steps to take is done. -/
lemma exists_result_of_remaining {stage : WorkStage} (h : stage.remaining = 0) :
    ∃ result, stage = .done result := by
  cases stage with
  | done result => exact ⟨result, rfl⟩
  | _ => cases h

end WorkStage

namespace Plugin

section Steps

variable {m : Type → Type} [Monad m]

/-- The next step of the worker for a file. One that is done does nothing more. -/
def workStep (p : Plugin) (h : Host m) (file : FsPath) : WorkStage → m WorkStage
  | .waiting => do
    match ← p.read h file with
    | .ok contents => return .read contents
    | .error failure => return .done (.error failure)
  | .read contents => .done <$> p.loadContents h file contents
  | .done result => return .done result

/-- A worker that nobody interrupts loads its file. -/
theorem load_eq_workSteps [LawfulMonad m] (p : Plugin) (h : Host m) (file : FsPath) :
    WorkStage.done <$> p.load h file =
      p.workStep h file .waiting >>= p.workStep h file := by
  unfold load
  rw [map_bind]
  simp only [workStep, bind_assoc]
  congr 1
  funext reading
  cases reading with
  | ok contents => rw [pure_bind, workStep]
  | error failure => rw [pure_bind, workStep, map_pure]

end Steps

/-- The stages of the worker for a file that the files account for. -/
inductive Reached (p : Plugin) (view : FsPath → Except StoreError String) (file : FsPath) :
    WorkStage → Prop where
  | waiting : Reached p view file .waiting
  | read {contents} : view file = .ok contents → Reached p view file (.read contents)
  | done : Reached p view file (.done (p.answer file (view file)))

variable {σ : Type} {h : Host (StateM σ)} {files : σ → FsPath → Except StoreError String}

/-- The message of a text keeps the files. -/
lemma files_note (keeps : h.KeepsFiles files) (p : Plugin) (file : FsPath) (contents : String)
    (s : σ) : files ((p.note h file contents).run s).2 = files s := by
  rw [run_note]
  cases p.language.reduce (.ofPath file) contents with
  | error messages => rfl
  | ok statements =>
    dsimp only
    split
    · rfl
    · exact keeps.log _ s

/-- A step leads to a stage that the files account for, keeps the files, and leaves a step less. -/
theorem run_workStep (keeps : h.KeepsFiles files) (p : Plugin) {file : FsPath} {stage : WorkStage}
    {s : σ} (reached : p.Reached (files s) file stage) :
    let r := (p.workStep h file stage).run s
    p.Reached (files s) file r.1 ∧ files r.2 = files s ∧ r.1.remaining ≤ stage.remaining - 1 := by
  cases reached with
  | waiting =>
    unfold workStep
    rw [StateT.run_bind, run_read, keeps.read_eq]
    have kept := keeps.read file s
    cases reading : files s file with
    | ok contents => exact ⟨.read reading, kept, Nat.le_refl 1⟩
    | error e =>
      have answer : p.answer file (files s file) = .error (.store file e) := by rw [reading]; rfl
      refine ⟨?_, kept, Nat.zero_le _⟩
      change p.Reached (files s) file (.done (.error (.store file e)))
      rw [← answer]
      exact .done
  | @read contents reading =>
    unfold workStep
    rw [StateT.run_map, run_loadContents]
    have answer : p.answer file (files s file) = p.result file contents := by rw [reading]; rfl
    refine ⟨?_, files_note keeps p file contents s, Nat.le_refl 0⟩
    change p.Reached (files s) file (.done (p.result file contents))
    rw [← answer]
    exact .done
  | done => exact ⟨.done, rfl, Nat.le_refl 0⟩

/-- Loading answers what follows from the files, and keeps them. -/
theorem run_load_of_keepsFiles (keeps : h.KeepsFiles files) (p : Plugin) (file : FsPath) (s : σ) :
    ((p.load h file).run s).1 = p.answer file (files s file) ∧
      files ((p.load h file).run s).2 = files s := by
  constructor
  · rw [answer_load, keeps.read_eq]
  · obtain ⟨reached, kept, -⟩ :=
      run_workStep keeps p (show p.Reached (files s) file .waiting from .waiting)
    rw [← kept] at reached
    obtain ⟨-, kept', -⟩ := run_workStep keeps p reached
    have steps := congrArg (fun q : StateM σ WorkStage => (q.run s).2) (p.load_eq_workSteps h file)
    exact (congrArg files steps).trans (kept'.trans kept)

end Plugin

/-! ### Pools of workers -/

/-- The surroundings that some workers share, and the workers, each with its file and its stage. -/
structure Pool (σ : Type) where
  state : σ
  workers : List (FsPath × WorkStage)

namespace Pool

variable {σ : Type}

/-- Workers for some files that have not begun. -/
def start (s : σ) (files : List FsPath) : Pool σ := ⟨s, files.map fun file => (file, .waiting)⟩

/-- A worker takes its next step. -/
def act (p : Plugin) (h : Host (StateM σ)) (pool : Pool σ) (i : Nat) : Pool σ :=
  match pool.workers[i]? with
  | some (file, stage) =>
    let r := (p.workStep h file stage).run pool.state
    ⟨r.2, pool.workers.set i (file, r.1)⟩
  | none => pool

/-- The workers that a schedule names take their steps. -/
def run (p : Plugin) (h : Host (StateM σ)) (pool : Pool σ) (schedule : List Nat) : Pool σ :=
  schedule.foldl (act p h) pool

/-- The results of the workers that are done, in the order of the files. -/
def results (pool : Pool σ) : List Loaded :=
  pool.workers.filterMap fun (file, stage) => stage.result?.map fun result => (file, result)

/-- Every worker is done. -/
def IsDone (pool : Pool σ) : Prop := ∀ w ∈ pool.workers, ∃ result, w.2 = .done result

/-- The workers are those for some files, all at stages that the files account for. -/
structure Sound (p : Plugin) (files : σ → FsPath → Except StoreError String)
    (view : FsPath → Except StoreError String) (batch : List FsPath) (pool : Pool σ) : Prop where
  view_eq : files pool.state = view
  batch_eq : pool.workers.map Prod.fst = batch
  reached : ∀ w ∈ pool.workers, p.Reached view w.1 w.2

variable {p : Plugin} {h : Host (StateM σ)} {files : σ → FsPath → Except StoreError String}
  {view : FsPath → Except StoreError String} {batch : List FsPath} {pool : Pool σ} {i j : Nat}
  {file : FsPath} {stage : WorkStage}

/-- A worker takes a step of its work on its file, and the state goes on. -/
lemma act_of_some (found : pool.workers[i]? = some (file, stage)) :
    pool.act p h i =
      let r := (p.workStep h file stage).run pool.state
      ⟨r.2, pool.workers.set i (file, r.1)⟩ := by
  simp only [act, found]

/-- A worker that is not there does nothing. -/
lemma act_of_none (missing : pool.workers[i]? = none) : pool.act p h i = pool := by
  simp only [act, missing]

/-- At the start the workers are at stages that the files account for. -/
lemma sound_start (s : σ) : (start s batch).Sound p files (files s) batch := by
  refine ⟨rfl, ?_, ?_⟩
  · unfold start
    rw [List.map_map]
    exact List.map_id _
  · intro w mem
    obtain ⟨file, -, rfl⟩ := List.mem_map.1 mem
    exact .waiting

/-- A step of a worker leaves all workers at stages that the files account for. -/
theorem Sound.act (keeps : h.KeepsFiles files) (sound : pool.Sound p files view batch) (i : Nat) :
    (pool.act p h i).Sound p files view batch := by
  cases found : pool.workers[i]? with
  | none =>
    rw [act_of_none found]
    exact sound
  | some w =>
    obtain ⟨file, stage⟩ := w
    obtain ⟨rfl, rfl, reached⟩ := sound
    obtain ⟨reached', kept, -⟩ :=
      Plugin.run_workStep keeps p (reached (file, stage) (List.mem_of_getElem? found))
    rw [act_of_some found]
    refine ⟨kept, ?_, ?_⟩
    · obtain ⟨inside, here⟩ := List.getElem?_eq_some_iff.1 found
      rw [List.map_set]
      refine (congrArg _ ?_).trans (List.set_getElem_self (by rwa [List.length_map]))
      rw [List.getElem_map, here]
    · intro w mem
      rcases List.mem_or_eq_of_mem_set mem with mem | rfl
      · exact reached w mem
      · exact reached'

/-- In a run, all workers stay at stages that the files account for. -/
theorem sound_run (keeps : h.KeepsFiles files) (schedule : List Nat)
    (sound : pool.Sound p files view batch) : (pool.run p h schedule).Sound p files view batch := by
  induction schedule generalizing pool with
  | nil => exact sound
  | cons i schedule ih => exact ih (sound.act keeps i)

/-- When all workers are done, their results are the answers of their files. -/
theorem Sound.results_eq (sound : pool.Sound p files view batch) (done : pool.IsDone) :
    pool.results = batch.map fun file => (file, p.answer file (view file)) := by
  obtain ⟨-, rfl, reached⟩ := sound
  have results : ∀ w ∈ pool.workers,
      (w.2.result?.map fun result => (w.1, result)) = some (w.1, p.answer w.1 (view w.1)) := by
    rintro ⟨file, stage⟩ mem
    obtain ⟨result, is⟩ := done _ mem
    have reached := reached _ mem
    dsimp only at is reached
    subst is
    cases reached with
    | done => rfl
  rw [List.map_map]
  unfold Pool.results
  rw [List.filterMap_congr results, List.filterMap_eq_map']
  rfl

/-! ### Workers get done -/

/-- A worker keeps its file, and a step of its own leaves it a step less. -/
lemma Sound.remaining_act (keeps : h.KeepsFiles files) (sound : pool.Sound p files view batch)
    (found : pool.workers[i]? = some (file, stage)) :
    ∃ stage', (pool.act p h j).workers[i]? = some (file, stage') ∧
      stage'.remaining ≤ stage.remaining - if j = i then 1 else 0 := by
  cases other : pool.workers[j]? with
  | none =>
    rw [act_of_none other]
    refine ⟨stage, found, ?_⟩
    rw [if_neg]
    · exact Nat.le_refl _
    · rintro rfl
      rw [found] at other
      cases other
  | some w =>
    obtain ⟨file', stage'⟩ := w
    rw [act_of_some other]
    by_cases same : j = i
    · subst same
      obtain ⟨rfl, rfl⟩ := Prod.mk.inj (Option.some.inj (found.symm.trans other))
      obtain ⟨rfl, -, reached⟩ := sound
      obtain ⟨-, -, fewer⟩ :=
        Plugin.run_workStep keeps p (reached (file, stage) (List.mem_of_getElem? found))
      rw [if_pos rfl]
      exact ⟨_, List.getElem?_set_self (List.getElem?_eq_some_iff.1 found).1, fewer⟩
    · rw [if_neg same]
      refine ⟨stage, ?_, Nat.le_refl _⟩
      rw [← found]
      exact List.getElem?_set_ne same

/-- In a run, a worker keeps its file and takes the steps that the schedule gives it. -/
theorem Sound.remaining_run (keeps : h.KeepsFiles files) (schedule : List Nat)
    (sound : pool.Sound p files view batch) (found : pool.workers[i]? = some (file, stage)) :
    ∃ stage', (pool.run p h schedule).workers[i]? = some (file, stage') ∧
      stage'.remaining ≤ stage.remaining - schedule.count i := by
  induction schedule generalizing pool stage with
  | nil => exact ⟨stage, found, Nat.le_refl _⟩
  | cons j schedule ih =>
    obtain ⟨stage₁, found₁, fewer₁⟩ := sound.remaining_act (j := j) keeps found
    obtain ⟨stage₂, found₂, fewer₂⟩ := ih (sound.act keeps j) found₁
    refine ⟨stage₂, found₂, ?_⟩
    by_cases same : j = i
    · rw [if_pos same] at fewer₁
      rw [same, List.count_cons_self]
      omega
    · rw [if_neg same] at fewer₁
      rw [List.count_cons_of_ne same]
      omega

/-- A schedule that gives every worker two steps gets all of them done. -/
theorem isDone_run (keeps : h.KeepsFiles files) (s : σ) {schedule : List Nat}
    (twice : ∀ i < batch.length, 2 ≤ schedule.count i) :
    ((start s batch).run p h schedule).IsDone := by
  have sound : ((start s batch).run p h schedule).Sound p files (files s) batch :=
    sound_run keeps schedule (sound_start s)
  intro w mem
  obtain ⟨i, inside, here⟩ := List.getElem_of_mem mem
  have inside' : i < batch.length := by
    rw [← sound.batch_eq, List.length_map]
    exact inside
  have found : (start s batch).workers[i]? = some (batch[i], .waiting) := by
    unfold start
    rw [List.getElem?_map, List.getElem?_eq_getElem inside']
    rfl
  obtain ⟨stage, found', fewer⟩ := (sound_start (p := p) s).remaining_run keeps schedule found
  have same : w = (batch[i], stage) := by
    rw [← here]
    exact Option.some.inj ((List.getElem?_eq_getElem inside).symm.trans found')
  have none : stage.remaining = 0 := by
    have two := twice i inside'
    change stage.remaining ≤ 2 - schedule.count i at fewer
    omega
  rw [same]
  exact WorkStage.exists_result_of_remaining none

end Pool

end PlaceholderExports
