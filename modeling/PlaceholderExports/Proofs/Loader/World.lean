import PlaceholderExports.Proofs.Loader.Stages

/-!
# Interleaved loads

Any number of calls of `load` share one terminal and one cache. In between, the files are changed by
somebody else and the cache is cleaned up. `World.act` lets one of these things happen, where a call
takes one of its steps, and `World.run` lets any list of them happen; the list is the order.

`World.Move` says what one action does (`move_act`), and everything about runs comes from it: the
loader leaves the files as they are (`disk_run`), calls keep their index and their path, calls that
have returned stay as they are (`run_returned`), and a call has returned after four steps, whatever
comes between them (`run_remaining`). With nothing between them, the run of a call is `Loader.load`
(`run_load`).
-/

namespace PlaceholderExports

/-- A call of `load`, with the path it was called with in its normal form. -/
structure LoadCall where
  path : FsPath
  stage : LoadStage
deriving DecidableEq

/-- Something that happens to a loader and its surroundings. -/
inductive Action where
  /-- A new call of `load`. -/
  | start (path : String)
  /-- The next step of a call. -/
  | advance (index : Nat)
  /-- Files are edited, removed or made by somebody else. -/
  | change (disk : Disk)
  /-- A call of `cleanup`. -/
  | cleanup
deriving DecidableEq

/-- A terminal, the cache of a loader, and the calls of `load` from the first to the last. -/
structure World where
  terminal : Terminal
  cache : LoadCache
  calls : List LoadCall

namespace World

/-- A loader that nobody has called. -/
def start (terminal : Terminal) : World := ⟨terminal, {}, []⟩

/-- Lets something happen. A call that was never started takes no steps. -/
def act (l : Loader) (w : World) : Action → World
  | .start path => { w with calls := w.calls ++ [⟨.normalize path, .opened⟩] }
  | .advance i =>
    match w.calls[i]? with
    | some ⟨path, stage⟩ =>
      let r := (l.step (Terminal.shell.host l.logger) w.cache path stage).run w.terminal
      ⟨r.2, r.1.1, w.calls.set i ⟨path, r.1.2⟩⟩
    | none => w
  | .change disk => { w with terminal := { w.terminal with disk } }
  | .cleanup =>
    let (cache, terminal) := (l.cleanup (Terminal.shell.host l.logger) w.cache).run w.terminal
    { w with terminal, cache }

/-- A call takes the next step of its stage. -/
lemma act_advance_of_some {l : Loader} {w : World} {i : Nat} {path : FsPath} {stage : LoadStage}
    (found : w.calls[i]? = some ⟨path, stage⟩) :
    w.act l (.advance i) =
      let r := (l.step (Terminal.shell.host l.logger) w.cache path stage).run w.terminal
      ⟨r.2, r.1.1, w.calls.set i ⟨path, r.1.2⟩⟩ := by
  simp only [act, found]

/-- Nothing happens if there is no call to take a step. -/
lemma act_advance_of_none {l : Loader} {w : World} {i : Nat} (missing : w.calls[i]? = none) :
    w.act l (.advance i) = w := by
  simp only [act, missing]

/-- Lets some things happen, one after the other. -/
def run (l : Loader) (w : World) (actions : List Action) : World := actions.foldl (act l) w

section Runs

variable (l : Loader)

/-- No actions change nothing. -/
@[simp] lemma run_nil (w : World) : w.run l [] = w := rfl

/-- Actions are taken one after the other. -/
@[simp] lemma run_cons (w : World) (a : Action) (actions : List Action) :
    w.run l (a :: actions) = (w.act l a).run l actions :=
  rfl

/-- A run can be split anywhere. -/
lemma run_append (w : World) (first second : List Action) :
    w.run l (first ++ second) = (w.run l first).run l second :=
  List.foldl_append

/-- The last action of a run. -/
lemma run_snoc (w : World) (actions : List Action) (a : Action) :
    w.run l (actions ++ [a]) = (w.run l actions).act l a :=
  run_append l w actions [a]

end Runs

/-! ### What an action does -/

/-- What an action does, with the step that a call takes. -/
inductive Move (l : Loader) (w : World) : Action → World → Prop
  | start {path} :
    Move l w (.start path) ⟨w.terminal, w.cache, w.calls ++ [⟨.normalize path, .opened⟩]⟩
  | advance {i path stage terminal cache stage'} :
    w.calls[i]? = some ⟨path, stage⟩ →
    l.Step w.terminal.disk w.cache path stage cache stage' →
    terminal.disk = w.terminal.disk →
    Move l w (.advance i) ⟨terminal, cache, w.calls.set i ⟨path, stage'⟩⟩
  | idle {i} :
    w.calls[i]? = none →
    Move l w (.advance i) w
  | change {disk} :
    Move l w (.change disk) ⟨{ w.terminal with disk }, w.cache, w.calls⟩
  | cleanup {terminal} :
    terminal.disk = w.terminal.disk →
    Move l w .cleanup ⟨terminal, w.cache.clear, w.calls⟩

/-- Every action does what it says. -/
theorem move_act (l : Loader) (w : World) (a : Action) : w.Move l a (w.act l a) := by
  cases a with
  | start path => exact .start
  | advance i =>
    cases found : w.calls[i]? with
    | none =>
      rw [act_advance_of_none found]
      exact .idle found
    | some call =>
      obtain ⟨path, stage⟩ := call
      rw [act_advance_of_some found]
      obtain ⟨step, disk⟩ := l.step_run w.terminal w.cache path stage
      exact .advance found step disk
  | change disk => exact .change
  | cleanup => exact .cleanup (Plugin.disk_debug l.logger w.terminal _)

/-- Loads and cleanups leave the files as they are. -/
theorem disk_run {l : Loader} {w : World} {actions : List Action}
    (quiet : ∀ disk, .change disk ∉ actions) :
    (w.run l actions).terminal.disk = w.terminal.disk := by
  induction actions generalizing w with
  | nil => rfl
  | cons a actions ih =>
    have rest : ∀ disk, .change disk ∉ actions :=
      fun disk mem => quiet disk (List.mem_cons_of_mem a mem)
    rw [run_cons, ih rest]
    have move := move_act l w a
    generalize w.act l a = w' at move ⊢
    cases move with
    | start => rfl
    | advance _ _ disk => exact disk
    | idle => rfl
    | change => exact absurd List.mem_cons_self (quiet _)
    | cleanup disk => exact disk

variable {l : Loader} {w : World} {a : Action} {i : Nat} {path : FsPath} {stage : LoadStage}

/-- A call keeps its path. It comes further by its own steps only. -/
lemma calls_act (found : w.calls[i]? = some ⟨path, stage⟩) :
    ∃ stage', (w.act l a).calls[i]? = some ⟨path, stage'⟩ ∧
      (a ≠ .advance i → stage' = stage) ∧
      (a = .advance i →
        l.Step w.terminal.disk w.cache path stage (w.act l a).cache stage') := by
  have move := move_act l w a
  generalize w.act l a = w' at move ⊢
  cases move with
  | start =>
    have inside : i < w.calls.length := (List.getElem?_eq_some_iff.1 found).1
    exact ⟨stage, by rw [List.getElem?_append_left inside, found], fun _ => rfl, nofun⟩
  | @advance j path' stage₀ _ _ stage₁ other step _ =>
    by_cases h : j = i
    · subst h
      obtain ⟨rfl, rfl⟩ := LoadCall.mk.inj (Option.some.inj (other.symm.trans found))
      have inside : j < w.calls.length := (List.getElem?_eq_some_iff.1 found).1
      exact ⟨stage₁, List.getElem?_set_self inside, fun own => absurd rfl own, fun _ => step⟩
    · refine ⟨stage, ?_, fun _ => rfl, fun own => absurd (Action.advance.inj own) h⟩
      rw [List.getElem?_set_ne h, found]
  | idle missing =>
    refine ⟨stage, found, fun _ => rfl, fun own => ?_⟩
    rw [Action.advance.inj own, found] at missing
    cases missing
  | change => exact ⟨stage, found, fun _ => rfl, nofun⟩
  | cleanup => exact ⟨stage, found, fun _ => rfl, nofun⟩

/-- A call that has returned stays as it is. -/
lemma run_returned {answer : Except Failure LoadResult} {actions : List Action}
    (found : w.calls[i]? = some ⟨path, .returned answer⟩) :
    (w.run l actions).calls[i]? = some ⟨path, .returned answer⟩ := by
  induction actions generalizing w with
  | nil => exact found
  | cons a actions ih =>
    obtain ⟨stage', found', other, own⟩ := calls_act (l := l) (a := a) found
    refine ih ?_
    by_cases h : a = .advance i
    · rw [found', (own h).eq_returned]
    · rw [found', other h]

/-! ### Calls end -/

end World

/-- The steps that a call has still to take at most. -/
def LoadStage.remaining : LoadStage → Nat
  | .opened => 4
  | .read _ => 3
  | .missed _ => 2
  | .computed _ _ => 1
  | .returned _ => 0

/-- A step of a call leaves fewer steps to take. -/
lemma Loader.Step.remaining_le {l : Loader} {disk : Disk} {cache cache' : LoadCache}
    {path : FsPath} {stage stage' : LoadStage} (step : l.Step disk cache path stage cache' stage') :
    stage'.remaining ≤ stage.remaining - 1 := by
  cases step with
  | readOk => exact Nat.le_refl 3
  | readError => exact Nat.zero_le _
  | hit => exact Nat.zero_le _
  | miss => exact Nat.le_refl 2
  | computeOk => exact Nat.le_refl 1
  | computeError => exact Nat.zero_le _
  | store => exact Nat.le_refl 0
  | stay => exact Nat.le_refl 0

/-- A call without steps to take has returned. -/
lemma LoadStage.returned_of_remaining {stage : LoadStage} (h : stage.remaining = 0) :
    ∃ answer, stage = .returned answer := by
  cases stage with
  | returned answer => exact ⟨answer, rfl⟩
  | _ => cases h

namespace World

variable {l : Loader} {w : World} {i : Nat} {path : FsPath} {stage : LoadStage}

/-- In a run, a call keeps its path and takes as many steps as it is given. -/
theorem run_remaining (actions : List Action) (found : w.calls[i]? = some ⟨path, stage⟩) :
    ∃ stage', (w.run l actions).calls[i]? = some ⟨path, stage'⟩ ∧
      stage'.remaining ≤ stage.remaining - actions.count (.advance i) := by
  induction actions generalizing w stage with
  | nil => exact ⟨stage, found, Nat.le_refl _⟩
  | cons a actions ih =>
    obtain ⟨stage₁, found₁, other, own⟩ := calls_act (l := l) (a := a) found
    obtain ⟨stage₂, found₂, fewer⟩ := ih found₁
    refine ⟨stage₂, found₂, ?_⟩
    by_cases h : a = .advance i
    · have step := (own h).remaining_le
      rw [h, List.count_cons_self]
      omega
    · rw [List.count_cons_of_ne h, ← other h]
      exact fewer

/-! ### A call alone -/

/-- A call that takes some steps with nobody in between. -/
lemma run_steps (l : Loader) (n : Nat) (terminal : Terminal) (cache : LoadCache)
    (calls : List LoadCall) (path : FsPath) (stage : LoadStage) :
    run l ⟨terminal, cache, calls ++ [⟨path, stage⟩]⟩ (.replicate n (.advance calls.length)) =
      let r := (l.steps (Terminal.shell.host l.logger) path n cache stage).run terminal
      ⟨r.2, r.1.1, calls ++ [⟨path, r.1.2⟩]⟩ := by
  induction n generalizing terminal cache stage with
  | zero => rfl
  | succ n ih =>
    have found : (World.mk terminal cache (calls ++ [⟨path, stage⟩])).calls[calls.length]? =
        some ⟨path, stage⟩ :=
      List.getElem?_concat_length
    rw [List.replicate_succ, run_cons, act_advance_of_some found]
    dsimp only
    rw [List.set_append_right _ _ (Nat.le_refl _), Nat.sub_self, List.set_cons_zero, ih]
    rfl

/-- With nobody in between, the steps of a call are `Loader.load`. -/
theorem run_load (l : Loader) (w : World) (path : String) :
    w.run l (.start path :: .replicate 4 (.advance w.calls.length)) =
      let r := (l.load (Terminal.shell.host l.logger) w.cache path).run w.terminal
      ⟨r.2, r.1.1, w.calls ++ [⟨.normalize path, .returned r.1.2⟩]⟩ := by
  rw [run_cons]
  unfold act
  rw [run_steps, ← l.load_eq_steps]
  rfl

end World

end PlaceholderExports
