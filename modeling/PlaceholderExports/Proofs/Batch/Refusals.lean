import PlaceholderExports.Proofs.Batch.Calls

/-!
# Emissions that are refused

A store may refuse any call. To see what an emission asks of it, the store notes every operation
with its answer (`FileStore.noting`), and its own answers stay what they are. The calls are planned
from the loaded files alone (`emissionPlan`), entry by entry: the directory, the map, the script. An
emission makes them up to the first one that is refused, so a refusal leaves the entries before it
complete and those after it untouched (`emission_refused`).

A script that names its map comes last in its entry, and the map is beside it (`dirname_mapPath`).
-/

namespace PlaceholderExports

open FsPath

/-! ### Stores that note what is asked -/

/-- An operation of a store, with the answer that it got. -/
inductive StoreEvent where
  | contains (path : FsPath) (answer : Bool)
  | read (path : FsPath) (answer : Except StoreError String)
  | call (call : StoreCall) (answer : Except StoreError Unit)
deriving DecidableEq

/-- A call that was not refused. -/
def StoreCall.granted (c : StoreCall) : StoreEvent := .call c (.ok ())

section Noting

variable {σ : Type}

/-- An action whose answer is noted. -/
def noted {α : Type} (x : StateM σ α) (event : α → StoreEvent) :
    StateM (σ × List StoreEvent) α := do
  let (s, events) ← get
  let (answer, s') := x.run s
  set (s', events ++ [event answer])
  return answer

/-- A store that notes every operation. -/
def FileStore.noting (h : FileStore (StateM σ)) : FileStore (StateM (σ × List StoreEvent)) where
  contains path := noted (h.contains path) (.contains path)
  read path := noted (h.read path) (.read path)
  write path text := noted (h.write path text) (.call (.write path text))
  ensureDir path := noted (h.ensureDir path) (.call (.ensureDir path))

/-- What a store answers to some calls that are made one after the other, whether or not it refuses
some of them. -/
def FileStore.answers (h : FileStore (StateM σ)) : List StoreCall → σ →
    List (Except StoreError Unit)
  | [], _ => []
  | c :: calls, s => ((h.call c).run s).1 :: h.answers calls ((h.call c).run s).2

variable (h : FileStore (StateM σ))

/-- A noted call does what the call does and notes its answer behind the other events. -/
lemma run_noting_call (c : StoreCall) (s : σ) (events : List StoreEvent) :
    (h.noting.call c).run (s, events) =
      (((h.call c).run s).1, ((h.call c).run s).2, events ++ [.call c ((h.call c).run s).1]) := by
  cases c <;> rfl

/-- Noting does not change what calls do. -/
lemma perform_run_of_noting (calls : List StoreCall) (s : σ) (events : List StoreEvent) :
    (h.perform calls).run s =
      (((h.noting.perform calls).run (s, events)).1,
        ((h.noting.perform calls).run (s, events)).2.1) := by
  induction calls generalizing s events with
  | nil => rfl
  | cons c calls ih =>
    unfold FileStore.perform
    rw [StateT.run_bind, StateT.run_bind, run_noting_call]
    generalize (h.call c).run s = outcome
    obtain ⟨answer, s'⟩ := outcome
    cases answer with
    | error cause => rfl
    | ok => exact ih s' _

/-- Calls are made up to the first one that is refused. -/
lemma perform_noting (calls : List StoreCall) (s : σ) (events : List StoreEvent) :
    let outcome := (h.noting.perform calls).run (s, events)
    (outcome.1 = .ok () ∧ outcome.2.2 = events ++ calls.map StoreCall.granted ∧
        ∀ answer ∈ h.answers calls s, answer = .ok ()) ∨
      ∃ before c after cause, calls = before ++ c :: after ∧
        outcome.1 = .error (.store c.path cause) ∧
        outcome.2.2 = events ++ (before.map StoreCall.granted ++ [.call c (.error cause)]) ∧
        .error cause ∈ h.answers calls s := by
  induction calls generalizing s events with
  | nil => exact .inl ⟨rfl, (List.append_nil _).symm, nofun⟩
  | cons c calls ih =>
    intro outcome
    have run : outcome = _ := StateT.run_bind _ _ _
    rw [run_noting_call] at run
    cases answer : ((h.call c).run s).1 with
    | error cause =>
      rw [answer] at run
      refine .inr ⟨[], c, calls, cause, rfl, ?_, ?_, ?_⟩
      · rw [run]; rfl
      · rw [run]; rfl
      · rw [FileStore.answers, answer]
        exact List.mem_cons_self
    | ok =>
      rw [answer] at run
      have rest := ih ((h.call c).run s).2 (events ++ [c.granted])
      change outcome = (h.noting.perform calls).run
        (((h.call c).run s).2, events ++ [c.granted]) at run
      rw [← run] at rest
      obtain ⟨done, noted, granted⟩ | ⟨before, c', after, cause, split, failed, noted, refused⟩ :=
        rest
      · refine .inl ⟨done, ?_, ?_⟩
        · rw [noted, List.append_assoc]
          rfl
        · rw [FileStore.answers, answer]
          exact List.forall_mem_cons.2 ⟨rfl, granted⟩
      · refine .inr ⟨c :: before, c', after, cause, ?_, failed, ?_, List.mem_cons_of_mem _ refused⟩
        · rw [split]
          rfl
        · rw [noted, List.append_assoc]
          rfl

end Noting

/-! ### Plans -/

/-- What is planned for some scripts, one after the other. -/
def emissionPlan (scripts : List (FsPath × LoadResult)) : List StoreCall :=
  scripts.flatMap fun (script, r) => r.plan script

/-- The calls of an emission are what is planned for its scripts. -/
lemma emissionCalls_eq_plan (root outDir : String) (results : List Loaded) :
    emissionCalls root outDir results = emissionPlan (emitted root outDir results) := by
  unfold emissionCalls emissionPlan
  exact List.flatMap_congr fun entry _ => calls_eq_plan entry.1 entry.2

/-- A planned call belongs to one of the scripts: before it come the calls of earlier scripts and
those of its own script that are planned earlier. -/
lemma emissionPlan_split {scripts : List (FsPath × LoadResult)} {before after : List StoreCall}
    {c : StoreCall} (split : emissionPlan scripts = before ++ c :: after) :
    ∃ earlier script r later front back, scripts = earlier ++ (script, r) :: later ∧
      r.plan script = front ++ c :: back ∧ before = emissionPlan earlier ++ front := by
  induction scripts generalizing before with
  | nil => exact absurd split.symm (List.append_ne_nil_of_right_ne_nil _ (List.cons_ne_nil _ _))
  | cons entry scripts ih =>
    obtain ⟨script, r⟩ := entry
    have split : r.plan script ++ emissionPlan scripts = before ++ c :: after := split
    have place : (∃ before', emissionPlan scripts = before' ++ c :: after ∧
        before = r.plan script ++ before') ∨ ∃ back, r.plan script = before ++ c :: back := by
      obtain ⟨mid, whole, rest⟩ | ⟨mid, whole, rest⟩ := List.append_eq_append_iff.1 split
      · exact .inl ⟨mid, rest, whole⟩
      · cases mid with
        | nil => exact .inl ⟨[], rest.symm, by rw [whole, List.append_nil, List.append_nil]⟩
        | cons c' mid =>
          obtain ⟨rfl, -⟩ := List.cons.inj rest
          exact .inr ⟨mid, whole⟩
    obtain ⟨before', rest, rfl⟩ | ⟨back, plan⟩ := place
    · obtain ⟨earlier, script', r', later, front, back, rfl, plan, rfl⟩ := ih rest
      exact ⟨(script, r) :: earlier, script', r', later, front, back, rfl, plan,
        (List.append_assoc _ _ _).symm⟩
    · exact ⟨[], script, r, scripts, before, back, rfl, plan, rfl⟩

/-- A script that has a map is planned last, and directly before it the map. -/
lemma plan_last {script : FsPath} {r : LoadResult} {map : SourceMap} (hasMap : r.map? = some map)
    {front : List StoreCall} {c : StoreCall} (plan : r.plan script = front ++ [c]) :
    c = .write script (r.code ++ mapLine script) ∧
      ∃ earlier, front = earlier ++ [.write (mapPath script) map.text] := by
  have whole : r.plan script =
      [.ensureDir ⟨dirname script.text⟩, .write (mapPath script) map.text] ++
      [.write script (r.code ++ mapLine script)] := by
    unfold LoadResult.plan LoadResult.scriptText
    rw [hasMap]
    rfl
  obtain ⟨rfl, same⟩ := List.append_inj' (whole.symm.trans plan) rfl
  exact ⟨(List.singleton_inj.1 same).symm, [.ensureDir ⟨dirname script.text⟩], rfl⟩

/-- A map is in the directory of its script. -/
lemma dirname_mapPath (script : FsPath) :
    dirname (mapPath script).text = dirname script.text := by
  unfold dirname mapPath
  rw [String.toList_append, List.reverse_append, List.dropWhile_append_of_pos]
  have noSlash : '/' ∉ ".map".toList := by decide
  intro c mem
  rw [decide_eq_true_eq]
  rintro rfl
  exact noSlash (List.mem_reverse.1 mem)

/-! ### Refused emissions -/

section Emissions

variable {σ : Type} (h : FileStore (StateM σ)) (root outDir : String) (results : List Loaded)
  (s : σ)

/-- A noted emission performs the planned calls and then gives the paths of the scripts. -/
lemma run_noting_emit (events : List StoreEvent) :
    (h.noting.emit root outDir results).run (s, events) =
      let outcome := (h.noting.perform (emissionPlan (emitted root outDir results))).run (s, events)
      (outcome.1.map fun _ => (emitted root outDir results).map (·.1), outcome.2) := by
  rw [← emissionCalls_eq_plan]
  unfold FileStore.emit
  rw [StateT.run_bind]
  generalize (h.noting.perform (emissionCalls root outDir results)).run (s, events) = outcome
  obtain ⟨answer, s'⟩ := outcome
  cases answer <;> rfl

/-- Noting does not change what an emission does. -/
lemma emit_run_of_noting (events : List StoreEvent) :
    (h.emit root outDir results).run s =
      (((h.noting.emit root outDir results).run (s, events)).1,
        ((h.noting.emit root outDir results).run (s, events)).2.1) := by
  rw [run_noting_emit, ← emissionCalls_eq_plan]
  unfold FileStore.emit
  rw [StateT.run_bind, perform_run_of_noting h _ s events]
  generalize (h.noting.perform (emissionCalls root outDir results)).run (s, events) = outcome
  obtain ⟨answer, s'⟩ := outcome
  cases answer <;> rfl

/-- What comes before one of some granted calls are granted calls. -/
lemma exists_split_of_granted {calls : List StoreCall} {before after : List StoreEvent}
    {c : StoreCall} {answer : Except StoreError Unit}
    (split : calls.map StoreCall.granted = before ++ .call c answer :: after) :
    ∃ front back, calls = front ++ c :: back ∧ before = front.map StoreCall.granted := by
  obtain ⟨front, rest, rfl, rfl, others⟩ := List.map_eq_append_iff.1 split
  obtain ⟨c', back, rfl, same, -⟩ := List.map_eq_cons_iff.1 others
  obtain ⟨rfl, -⟩ := StoreEvent.call.inj same
  exact ⟨front, back, rfl, rfl⟩

/-- Every call of an emission is planned, and the calls that are planned before it were granted. -/
lemma exists_split_of_event {before after : List StoreEvent} {c : StoreCall}
    {answer : Except StoreError Unit}
    (split : ((h.noting.emit root outDir results).run (s, [])).2.2 =
      before ++ .call c answer :: after) :
    ∃ front back, emissionPlan (emitted root outDir results) = front ++ c :: back ∧
      before = front.map StoreCall.granted := by
  rw [run_noting_emit] at split
  obtain ⟨-, events, -⟩ | ⟨front, c', back, cause, plan, -, events, -⟩ :=
    perform_noting h (emissionPlan (emitted root outDir results)) s []
  · exact exists_split_of_granted (events.symm.trans split)
  · have split := events.symm.trans split
    rw [List.nil_append] at split
    obtain rfl | ⟨after, last, rfl⟩ := List.eq_nil_or_concat' after
    · -- the call that was refused
      obtain ⟨rfl, same⟩ := List.append_inj' split rfl
      obtain ⟨rfl, -⟩ := StoreEvent.call.inj (List.singleton_inj.1 same)
      exact ⟨front, back, plan, rfl⟩
    · rw [← List.cons_append, ← List.append_assoc] at split
      obtain ⟨split, -⟩ := List.append_inj' split rfl
      obtain ⟨front', back', rfl, rfl⟩ := exists_split_of_granted split
      refine ⟨front', back' ++ c' :: back, ?_, rfl⟩
      rw [plan, List.append_assoc, List.cons_append]

end Emissions

/-- An emission in a store that may refuse any call. It fails exactly if one of the planned calls is
refused. If it succeeds, all of them were made, and nothing else was asked. If it fails, its failure
has the path of the refused call; all calls of earlier scripts were granted, and those of its own
script that are planned before it, and after it nothing was asked. A script that names its map is
written only after its map, which has the name in that line and is in the directory of the
script. -/
theorem emission_refused {σ : Type} (h : FileStore (StateM σ)) (root outDir : String)
    (results : List Loaded) (s : σ) :
    let scripts := results.filterMap fun (file, result) =>
      result.toOption.map fun r => (FsPath.normalize (outputPath root outDir file.text), r)
    let outcome := (h.noting.emit root outDir results).run (s, [])
    let events := outcome.2.2
    (h.emit root outDir results).run s = (outcome.1, outcome.2.1) ∧
      ((∃ failure, outcome.1 = .error failure) ↔
        ∃ cause, .error cause ∈ h.answers (emissionPlan scripts) s) ∧
      (∀ paths, outcome.1 = .ok paths →
        paths = scripts.map (·.1) ∧ events = (emissionPlan scripts).map StoreCall.granted) ∧
      (∀ failure, outcome.1 = .error failure →
        ∃ (earlier : List (FsPath × LoadResult)) (script : FsPath) (r : LoadResult)
          (later : List (FsPath × LoadResult)) (front : List StoreCall) (c : StoreCall)
          (back : List StoreCall) (cause : StoreError),
          scripts = earlier ++ (script, r) :: later ∧
          r.plan script = front ++ c :: back ∧ failure = .store c.path cause ∧
          events =
            (emissionPlan earlier ++ front).map StoreCall.granted ++ [.call c (.error cause)]) ∧
      ∀ before c answer after, events = before ++ .call c answer :: after →
        ∃ (earlier : List (FsPath × LoadResult)) (script : FsPath) (r : LoadResult)
          (later : List (FsPath × LoadResult)) (front back : List StoreCall),
          scripts = earlier ++ (script, r) :: later ∧
          r.plan script = front ++ c :: back ∧
          before = (emissionPlan earlier ++ front).map StoreCall.granted ∧
          ∀ map, r.map? = some map → back = [] →
            c = .write script (r.code ++
                ("\n//# sourceMappingURL=" ++ basename (script.text ++ ".map") ++ "\n")) ∧
              (∃ others, before =
                others ++ [StoreCall.granted (.write ⟨script.text ++ ".map"⟩ map.text)]) ∧
              dirname (script.text ++ ".map") = dirname script.text := by
  intro scripts outcome events
  have scripts_eq : emitted root outDir results = scripts := emitted_eq root outDir results
  have run : outcome = _ := run_noting_emit h root outDir results s []
  have ends := perform_noting h (emissionPlan scripts) s []
  dsimp only at ends
  rw [scripts_eq] at run
  change outcome = (_, _) at run
  refine ⟨emit_run_of_noting h root outDir results s [], ?fails, ?succeeded, ?failed, ?written⟩
  case fails =>
    rw [run]
    obtain ⟨done, -, granted⟩ | ⟨before, c, after, cause, -, failed, -, refused⟩ := ends
    · rw [done]
      constructor
      · rintro ⟨failure, fails⟩
        cases fails
      · rintro ⟨cause, mem⟩
        cases granted _ mem
    · rw [failed]
      exact ⟨fun _ => ⟨cause, refused⟩, fun _ => ⟨_, rfl⟩⟩
  case succeeded =>
    intro paths succeeds
    rw [run] at succeeds
    obtain ⟨done, noted, -⟩ | ⟨before, c, after, cause, -, failed, -, -⟩ := ends
    · rw [done] at succeeds
      refine ⟨(Except.ok.inj succeeds).symm, ?_⟩
      change outcome.2.2 = _
      rw [run]
      exact noted
    · rw [failed] at succeeds
      cases succeeds
  case failed =>
    intro failure fails
    rw [run] at fails
    obtain ⟨done, -, -⟩ | ⟨before, c, after, cause, split, failed, noted, -⟩ := ends
    · rw [done] at fails
      cases fails
    · rw [failed] at fails
      obtain ⟨earlier, script, r, later, front, back, whole, plan, rfl⟩ := emissionPlan_split split
      refine ⟨earlier, script, r, later, front, c, back, cause, whole, plan,
        (Except.error.inj fails).symm, ?_⟩
      change outcome.2.2 = _
      rw [run]
      exact noted
  case written =>
    intro before c answer after split
    obtain ⟨front', back', plan', rfl⟩ := exists_split_of_event h root outDir results s split
    rw [scripts_eq] at plan'
    obtain ⟨earlier, script, r, later, front, back, whole, plan, rfl⟩ := emissionPlan_split plan'
    refine ⟨earlier, script, r, later, front, back, whole, plan, rfl, fun map hasMap last => ?_⟩
    subst last
    obtain ⟨written, others, rfl⟩ := plan_last hasMap plan
    refine ⟨written, ⟨(emissionPlan earlier ++ others).map StoreCall.granted, ?_⟩,
      dirname_mapPath script⟩
    rw [← List.append_assoc, List.map_append]
    rfl

/-- A store that grants some calls, as many as its state says, and then refuses all others. -/
def FileStore.limited (cause : StoreError) : FileStore (StateM Nat) :=
  let answer : StateM Nat (Except StoreError Unit) := do
    match ← get with
    | 0 => return .error cause
    | n + 1 =>
      set n
      return .ok ()
  { contains := fun _ => return false
    read := fun path => return .error (.missing path)
    write := fun _ _ => answer
    ensureDir := fun _ => answer }

/-- Two scripts, the first with a map, and between them a file that could not be loaded. Of the five
planned calls a store grants four or all. -/
theorem emission_refused_last_script :
    let map : SourceMap := ⟨["/p/a.ts"], ["let a;"]⟩
    let one : LoadResult := { code := "let a;\n", map? := some map, typeOnlyExports := [] }
    let two : LoadResult := { code := "let b;\n", map? := none, typeOnlyExports := [] }
    let results : List Loaded := [(⟨"/p/a.ts"⟩, .ok one),
      (⟨"/p/bad.ts"⟩, .error (.parse ⟨"/p/bad.ts"⟩ [])), (⟨"/p/b.ts"⟩, .ok two)]
    let script : FsPath := ⟨"/d/a.js"⟩
    let scripts : List (FsPath × LoadResult) := [(script, one), (⟨"/d/b.js"⟩, two)]
    let store := FileStore.limited .notDirectory
    let outcome := fun n => (store.noting.emit "/p" "/d" results).run (n, [])
    (outcome 4).1 = .error (.store ⟨"/d/b.js"⟩ .notDirectory) ∧
      (∃ cause, .error cause ∈ store.answers (emissionPlan scripts) 4) ∧
      (outcome 4).2.2 =
        [.call (.ensureDir ⟨"/d"⟩) (.ok ()), .call (.write ⟨"/d/a.js.map"⟩ map.text) (.ok ()),
          .call (.write script "let a;\n\n//# sourceMappingURL=a.js.map\n") (.ok ()),
          .call (.ensureDir ⟨"/d"⟩) (.ok ()),
          .call (.write ⟨"/d/b.js"⟩ "let b;\n") (.error .notDirectory)] ∧
      (∃ (earlier : List StoreCall) (c : StoreCall) (cause : StoreError),
        (outcome 4).2.2 = earlier.map StoreCall.granted ++ [.call c (.error cause)]) ∧
      dirname (script.text ++ ".map") = dirname script.text ∧
      (outcome 5).1 = .ok [script, ⟨"/d/b.js"⟩] ∧
      (outcome 5).2.2 = (emissionPlan scripts).map StoreCall.granted := by
  intro map one two results script scripts store outcome
  have failure : (outcome 4).1 = .error (.store ⟨"/d/b.js"⟩ .notDirectory) := by decide +kernel
  have events : (outcome 4).2.2 =
      [.call (.ensureDir ⟨"/d"⟩) (.ok ()), .call (.write ⟨"/d/a.js.map"⟩ map.text) (.ok ()),
        .call (.write script "let a;\n\n//# sourceMappingURL=a.js.map\n") (.ok ()),
        .call (.ensureDir ⟨"/d"⟩) (.ok ()),
        .call (.write ⟨"/d/b.js"⟩ "let b;\n") (.error .notDirectory)] := by decide +kernel
  have success : (outcome 5).1 = .ok [script, ⟨"/d/b.js"⟩] := by decide +kernel
  have scripts_eq := (emitted_eq "/p" "/d" results).symm.trans (show _ = scripts by decide +kernel)
  obtain ⟨-, fails, -, failed, written⟩ := emission_refused store "/p" "/d" results 4
  obtain ⟨-, -, succeeded, -, -⟩ := emission_refused store "/p" "/d" results 5
  rw [scripts_eq] at fails
  simp only [scripts_eq] at failed written succeeded
  obtain ⟨earlier, _, _, _, front, c, _, cause, -, -, -, noted⟩ := failed _ failure
  refine ⟨failure, fails.1 ⟨_, failure⟩, events, ⟨_, c, cause, noted⟩, ?_, success,
    (succeeded _ success).2⟩
  -- the third event writes the first script, which has a map
  obtain ⟨earlier, script', r, _, front, back, whole, plan, before, beside⟩ :=
    written [_, _] (.write script _) (.ok ()) [_, _] events
  have length := congrArg List.length before
  cases earlier with
  | nil =>
    obtain ⟨same, -⟩ := List.cons.inj whole
    cases same
    have whole := congrArg List.length plan
    have last : back = [] := by
      simp [LoadResult.plan, one, emissionPlan] at whole length
      exact List.length_eq_zero_iff.1 (by omega)
    exact (beside map rfl last).2.2
  | cons entry earlier =>
    obtain ⟨same, -⟩ := List.cons.inj whole
    cases same
    simp [LoadResult.plan, one, emissionPlan] at length

end PlaceholderExports
