import PlaceholderExports.Proofs.CacheLaws
import PlaceholderExports.Proofs.Loader.World

/-!
# Loads as if there were no cache

The cache is shared by calls that take turns in any order, so a slow call may store a result for
contents that are no longer in the file, over the result for newer ones. No call ever notices:
`loads_transparent` says that each of them returns what the plugin makes of the contents that this
call has read.

The invariant of a run (`Consistent`) has two parts. Each call has come to its stage through its own
reading of the file (`Reached`). Each entry of the cache holds the result for some text that was
read in the run, under the path of the entry and with the digest of the text. As two texts of a run
have two digests, a result that is found for some contents is the result for these contents.
-/

namespace PlaceholderExports.World

/-! ### Readings -/

/-- The text that an action reads, if any. -/
def textRead? (w : World) : Action → Option String
  | .advance i =>
    match w.calls[i]? with
    | some ⟨path, .opened⟩ => (w.terminal.disk.read path).toOption
    | _ => none
  | _ => none

/-- The texts that are read in a run. -/
def textsRead (l : Loader) (w : World) : List Action → List String
  | [] => []
  | a :: actions => (w.textRead? a).toList ++ (w.act l a).textsRead l actions

/-- In a run, a call reads its file and gets this. -/
def ReadAt (l : Loader) (w : World) (actions : List Action) (i : Nat) (path : FsPath)
    (reading : Except StoreError String) : Prop :=
  ∃ before after, actions = before ++ .advance i :: after ∧
    (w.run l before).calls[i]? = some ⟨path, .opened⟩ ∧
    (w.run l before).terminal.disk.read path = reading

section Readings

variable {l : Loader} {w : World} {actions : List Action} {i : Nat} {path : FsPath}
  {reading : Except StoreError String}

/-- The texts of a run that is split somewhere. -/
lemma textsRead_append (l : Loader) (w : World) (first second : List Action) :
    w.textsRead l (first ++ second) =
      w.textsRead l first ++ (w.run l first).textsRead l second := by
  induction first generalizing w with
  | nil => rfl
  | cons a first ih => rw [List.cons_append, textsRead, textsRead, ih, List.append_assoc, run_cons]

/-- What was read stays read. -/
lemma ReadAt.append (r : ReadAt l w actions i path reading) (more : List Action) :
    ReadAt l w (actions ++ more) i path reading := by
  obtain ⟨before, after, rfl, opened, disk⟩ := r
  exact ⟨before, after ++ more, List.append_assoc _ _ _, opened, disk⟩

/-- A call that takes its first step now reads its file. -/
lemma ReadAt.now (opened : (w.run l actions).calls[i]? = some ⟨path, .opened⟩)
    (disk : (w.run l actions).terminal.disk.read path = reading) :
    ReadAt l w (actions ++ [.advance i]) i path reading :=
  ⟨actions, [], rfl, opened, disk⟩

/-- A text that a call has read is one of the texts of the run. -/
lemma ReadAt.mem_textsRead {contents : String} (r : ReadAt l w actions i path (.ok contents)) :
    contents ∈ w.textsRead l actions := by
  obtain ⟨before, after, rfl, opened, disk⟩ := r
  have text : (w.run l before).textRead? (.advance i) = some contents := by
    simp only [textRead?, opened, disk, Except.toOption]
  rw [textsRead_append, textsRead, text]
  exact List.mem_append_right _ List.mem_cons_self

/-- A call that has taken a step is no longer opened. -/
lemma not_opened_of_advance {before mid : List Action}
    (opened : (w.run l before).calls[i]? = some ⟨path, .opened⟩) :
    (w.run l (before ++ .advance i :: mid)).calls[i]? ≠ some ⟨path, .opened⟩ := by
  intro again
  obtain ⟨stage, found, fewer⟩ := run_remaining (l := l) (.advance i :: mid) opened
  rw [run_append, found] at again
  obtain ⟨-, rfl⟩ := LoadCall.mk.inj (Option.some.inj again)
  rw [List.count_cons_self] at fewer
  simp only [LoadStage.remaining] at fewer
  omega

/-- A call reads its file only once. -/
theorem ReadAt.unique {other : Except StoreError String} (r : ReadAt l w actions i path reading)
    (s : ReadAt l w actions i path other) : reading = other := by
  obtain ⟨before, after, rfl, opened, rfl⟩ := r
  obtain ⟨before', after', split, opened', rfl⟩ := s
  -- neither of the two moments comes before the other
  rw [List.append_eq_append_iff] at split
  obtain ⟨mid, rfl, tail⟩ | ⟨mid, rfl, tail⟩ := split
  · cases mid with
    | nil => rw [List.append_nil]
    | cons a mid =>
      obtain ⟨rfl, -⟩ := List.cons.inj tail
      exact absurd opened' (not_opened_of_advance opened)
  · cases mid with
    | nil => rw [List.append_nil]
    | cons a mid =>
      obtain ⟨rfl, -⟩ := List.cons.inj tail
      exact absurd opened (not_opened_of_advance opened')

end Readings

/-! ### The invariant -/

/-- How a call has come to a stage in a run: it has read its file, and what it holds is made of what
it has read. -/
inductive Reached (l : Loader) (w : World) (actions : List Action) (i : Nat) (path : FsPath) :
    LoadStage → Prop
  | opened :
    Reached l w actions i path .opened
  | read {contents} :
    ReadAt l w actions i path (.ok contents) →
    Reached l w actions i path (.read contents)
  | missed {contents} :
    ReadAt l w actions i path (.ok contents) →
    Reached l w actions i path (.missed contents)
  | computed {contents result} :
    ReadAt l w actions i path (.ok contents) →
    l.plugin.result path contents = .ok result →
    Reached l w actions i path (.computed contents result)
  | returned {reading answer} :
    ReadAt l w actions i path reading →
    l.plugin.answer path reading = answer →
    Reached l w actions i path (.returned answer)

/-- No two texts have the same digest. -/
def Distinct (l : Loader) (texts : List String) : Prop :=
  ∀ a ∈ texts, ∀ b ∈ texts, l.digest a = l.digest b → a = b

/-- Every entry of a cache is the result for one of these texts, under the digest of the text. -/
def Entries (l : Loader) (texts : List String) (cache : LoadCache) : Prop :=
  ∀ path key result, cache.find? path = some ⟨key, result⟩ →
    ∃ contents ∈ texts, l.digest contents = key ∧ l.plugin.result path contents = .ok result

/-- The invariant of the runs of a loader. -/
structure Consistent (l : Loader) (w : World) (actions : List Action) : Prop where
  calls : ∀ i path stage, (w.run l actions).calls[i]? = some ⟨path, stage⟩ →
    Reached l w actions i path stage
  entries : Entries l (w.textsRead l actions) (w.run l actions).cache

section Invariant

variable {l : Loader} {w : World} {actions : List Action} {i : Nat} {path : FsPath}
  {stage stage' : LoadStage} {texts more : List String} {cache cache' : LoadCache}

/-- A stage that was reached stays reached. -/
lemma Reached.append (r : Reached l w actions i path stage) (more : List Action) :
    Reached l w (actions ++ more) i path stage := by
  cases r with
  | opened => exact .opened
  | read r => exact .read (r.append more)
  | missed r => exact .missed (r.append more)
  | computed r result => exact .computed (r.append more) result
  | returned r answer => exact .returned (r.append more) answer

/-- An empty cache has no entry to speak of. -/
lemma Entries.empty : Entries l texts {} := by
  intro path key result found
  rw [Cache.find?_empty] at found
  cases found

/-- Entries for some texts are entries for more texts. -/
lemma Entries.mono (e : Entries l texts cache) (sub : texts ⊆ more) : Entries l more cache := by
  intro path key result found
  obtain ⟨contents, mem, rest⟩ := e path key result found
  exact ⟨contents, sub mem, rest⟩

/-- A result that is stored for a text is an entry for it. -/
lemma Entries.insert {contents : String} {result : LoadResult} (e : Entries l texts cache)
    (mem : contents ∈ texts) (value : l.plugin.result path contents = .ok result) :
    Entries l texts (cache.insert path (l.digest contents) result) := by
  intro p key other found
  rw [Cache.find?_insert] at found
  by_cases h : p = path
  · rw [if_pos h] at found
    obtain ⟨rfl, rfl⟩ := CacheEntry.mk.inj (Option.some.inj found)
    exact ⟨contents, mem, rfl, h ▸ value⟩
  · rw [if_neg h] at found
    exact e p key other found

/-- A result that is found for a text is the result for it. -/
lemma Entries.hit {contents : String} {result : LoadResult} (e : Entries l texts cache)
    (distinct : Distinct l texts) (mem : contents ∈ texts)
    (found : cache.get? path (l.digest contents) = some result) :
    l.plugin.result path contents = .ok result := by
  obtain ⟨source, mem', key, value⟩ := e path _ result (Cache.get?_eq_some.1 found)
  rwa [distinct contents mem source mem' key.symm]

/-- The step of a call keeps to what the call has read. -/
lemma Reached.step (c : Consistent l w actions) (distinct : Distinct l (w.textsRead l actions))
    (found : (w.run l actions).calls[i]? = some ⟨path, stage⟩)
    (step : l.Step (w.run l actions).terminal.disk (w.run l actions).cache path stage cache'
      stage') :
    Reached l w (actions ++ [.advance i]) i path stage' := by
  have reached := c.calls i path stage found
  cases step with
  | readOk disk => exact .read (.now found disk)
  | readError disk => exact .returned (.now found disk) rfl
  | @hit contents result lookup =>
    cases reached with
    | read r =>
      have value := c.entries.hit distinct r.mem_textsRead lookup
      exact .returned (r.append _) value
  | miss =>
    cases reached with
    | read r => exact .missed (r.append _)
  | computeOk value =>
    cases reached with
    | missed r => exact .computed (r.append _) value
  | computeError value =>
    cases reached with
    | missed r => exact .returned (r.append _) value
  | store =>
    cases reached with
    | computed r value => exact .returned (r.append _) value
  | stay => exact reached.append _

/-- The step of a call stores nothing but the result for what the call has read. -/
lemma Entries.step (c : Consistent l w actions)
    (found : (w.run l actions).calls[i]? = some ⟨path, stage⟩)
    (step : l.Step (w.run l actions).terminal.disk (w.run l actions).cache path stage cache'
      stage') :
    Entries l (w.textsRead l actions) cache' := by
  obtain rfl | ⟨contents, result, rfl, -, rfl⟩ := step.cache_eq_or_store
  · exact c.entries
  · cases c.calls i path _ found with
    | computed r value => exact c.entries.insert r.mem_textsRead value

/-- Every action keeps the invariant. -/
theorem Consistent.act (c : Consistent l w actions)
    (distinct : Distinct l (w.textsRead l actions)) (a : Action) :
    Consistent l w (actions ++ [a]) := by
  have texts : w.textsRead l actions ⊆ w.textsRead l (actions ++ [a]) := by
    rw [textsRead_append]
    exact List.subset_append_left _ _
  suffices h : (∀ i path stage, (w.run l (actions ++ [a])).calls[i]? = some ⟨path, stage⟩ →
      Reached l w (actions ++ [a]) i path stage) ∧
      Entries l (w.textsRead l actions) (w.run l (actions ++ [a])).cache from
    ⟨h.1, h.2.mono texts⟩
  rw [run_snoc]
  have move := move_act l (w.run l actions) a
  generalize (w.run l actions).act l a = w' at move ⊢
  have kept : ∀ i path stage, (w.run l actions).calls[i]? = some ⟨path, stage⟩ →
      Reached l w (actions ++ [a]) i path stage :=
    fun i path stage found => (c.calls i path stage found).append _
  cases move with
  | start =>
    refine ⟨fun i p stage found => ?_, c.entries⟩
    rw [List.getElem?_append] at found
    by_cases h : i < (w.run l actions).calls.length
    · rw [if_pos h] at found
      exact kept i p stage found
    · rw [if_neg h, List.getElem?_singleton] at found
      by_cases last : i - (w.run l actions).calls.length = 0
      · rw [if_pos last] at found
        obtain ⟨-, rfl⟩ := LoadCall.mk.inj (Option.some.inj found)
        exact .opened
      · rw [if_neg last] at found
        cases found
  | @advance j path₀ stage₀ _ _ stage₁ own step _ =>
    refine ⟨fun i p stage found => ?_, .step c own step⟩
    by_cases h : j = i
    · subst h
      have inside : j < (w.run l actions).calls.length := (List.getElem?_eq_some_iff.1 own).1
      rw [List.getElem?_set_self inside] at found
      obtain ⟨rfl, rfl⟩ := LoadCall.mk.inj (Option.some.inj found)
      exact .step c distinct own step
    · rw [List.getElem?_set_ne h] at found
      exact kept i p stage found
  | idle => exact ⟨kept, c.entries⟩
  | change => exact ⟨kept, c.entries⟩
  | cleanup => exact ⟨kept, .empty⟩

/-- The invariant holds after every run of a new loader in which all texts have their own digest. -/
theorem consistent_run (l : Loader) (t : Terminal) (actions : List Action)
    (distinct : Distinct l ((start t).textsRead l actions)) : Consistent l (start t) actions := by
  induction actions using List.reverseRecOn with
  | nil => exact ⟨fun _ _ _ found => (nomatch found), .empty⟩
  | append_singleton actions a ih =>
    have earlier : Distinct l ((start t).textsRead l actions) := by
      rw [textsRead_append] at distinct
      exact fun a ha b hb => distinct a (List.mem_append_left _ ha) b (List.mem_append_left _ hb)
    exact (ih earlier).act earlier a

end Invariant

/-! ### Transparency -/

/-- A step of a call that fails in the end leaves the cache as it is. -/
lemma cache_act_of_failed {l : Loader} {w : World} {i : Nat} {path : FsPath} {failure : Failure}
    {actions : List Action}
    (failed : (w.run l (.advance i :: actions)).calls[i]? =
      some ⟨path, .returned (.error failure)⟩) :
    (w.act l (.advance i)).cache = w.cache := by
  cases found : w.calls[i]? with
  | none => rw [act_advance_of_none found]
  | some call =>
    obtain ⟨path', stage⟩ := call
    obtain ⟨stage', found', -, own⟩ := calls_act (l := l) (a := .advance i) found
    obtain same | ⟨contents, result, -, rfl, -⟩ := (own rfl).cache_eq_or_store
    · exact same
    · -- a call that stores its result returns it, and no failure
      rw [run_cons, run_returned found'] at failed
      cases failed

/-- A call has returned after four steps, whatever happens in between. -/
lemma returned_of_four_steps {l : Loader} {w : World} {path : String} {actions : List Action}
    (enough : 4 ≤ actions.count (.advance w.calls.length)) :
    ∃ answer, (w.run l (.start path :: actions)).calls[w.calls.length]? =
      some ⟨.normalize path, .returned answer⟩ := by
  have opened : (w.act l (.start path)).calls[w.calls.length]? =
      some ⟨.normalize path, .opened⟩ :=
    List.getElem?_concat_length
  obtain ⟨stage, found, fewer⟩ := run_remaining (l := l) actions opened
  have done : stage.remaining = 0 := by
    rw [show LoadStage.opened.remaining = 4 from rfl, Nat.sub_eq_zero_of_le enough] at fewer
    exact Nat.le_zero.1 fewer
  obtain ⟨answer, rfl⟩ := LoadStage.returned_of_remaining done
  exact ⟨answer, found⟩

/-- The cache is never noticed. In every run of a new loader in which all texts have their own
digest, a call that has returned has read its file, and its answer is the failure of the reading or
what the plugin makes of the contents, on any terminal. A call that has failed has left the cache as
it was in each of its steps, and a call that gets its four steps returns. -/
theorem loads_transparent (l : Loader) (t : Terminal) (actions : List Action)
    (distinct : Distinct l ((start t).textsRead l actions)) :
    (∀ i path answer, ((start t).run l actions).calls[i]? = some ⟨path, .returned answer⟩ →
      ∃ reading, ReadAt l (start t) actions i path reading ∧
        match reading with
        | .ok contents => ∀ t',
          answer = ((l.plugin.loadContents (Terminal.shell.host l.logger) path contents).run t').1
        | .error e => answer = .error (.store path e)) ∧
    (∀ i path failure before after,
      ((start t).run l actions).calls[i]? = some ⟨path, .returned (.error failure)⟩ →
      actions = before ++ .advance i :: after →
      ((start t).run l (before ++ [.advance i])).cache = ((start t).run l before).cache) ∧
    (∀ before path after, actions = before ++ .start path :: after →
      let i := ((start t).run l before).calls.length
      4 ≤ after.count (.advance i) →
      ∃ answer, ((start t).run l actions).calls[i]? =
        some ⟨.normalize path, .returned answer⟩) := by
  refine ⟨?answers, ?failures, ?returns⟩
  case answers =>
    intro i path answer found
    cases (consistent_run l t actions distinct).calls i path _ found with
    | @returned reading _ r value =>
      refine ⟨reading, r, ?_⟩
      cases reading with
      | ok contents =>
        intro t'
        rw [Plugin.loadContents_run]
        exact value.symm
      | error e => exact value.symm
  case failures =>
    intro i path failure before after failed split
    rw [split, run_append] at failed
    rw [run_snoc]
    exact cache_act_of_failed failed
  case returns =>
    intro before path after split i enough
    rw [split, run_append]
    exact returned_of_four_steps enough

/-- A call that has read the older of two texts stores its result over the result for the newer one.
The next lookup is for the newer text and still gets the result for it. -/
theorem loads_transparent_late_store :
    let l : Loader := { plugin := ⟨{}, .typeScript, rfl⟩, logger := .console .warn }
    let disk (text : String) : Disk := { entries := [(["a.ts"], .file (Text.encode text))] }
    let t : Terminal := { disk := disk "let a;" }
    let actions : List Action :=
      .start "a.ts" :: .start "./a.ts" :: .start "a.ts" :: .advance 0 ::
        .change (disk "let b;") :: .advance 1 :: .advance 2 ::
        (.replicate 3 (.advance 1) ++ .replicate 3 (.advance 0) ++ .replicate 3 (.advance 2))
    Distinct l ((start t).textsRead l actions) ∧
      ∃ answer,
        ((start t).run l actions).calls[2]? = some ⟨.normalize "a.ts", .returned answer⟩ ∧
        ∀ t', answer = ((l.plugin.loadContents (Terminal.shell.host l.logger)
          (.normalize "a.ts") "let b;").run t').1 := by
  intro l disk t actions
  have texts : (start t).textsRead l actions = ["let a;", "let b;", "let b;"] := by decide +kernel
  have differ : l.digest "let a;" ≠ l.digest "let b;" := by decide +kernel
  have distinct : Distinct l ((start t).textsRead l actions) := by
    rw [texts]
    intro a ha b hb same
    simp only [List.mem_cons, List.not_mem_nil, or_false, or_self] at ha hb
    rcases ha with rfl | rfl
    · rcases hb with rfl | rfl
      · rfl
      · exact absurd same differ
    · rcases hb with rfl | rfl
      · exact absurd same.symm differ
      · rfl
  have newer : ReadAt l (start t) actions 2 (.normalize "a.ts") (.ok "let b;") :=
    ⟨actions.take 6, actions.drop 7, rfl, by decide +kernel, by decide +kernel⟩
  obtain ⟨answers, -, returns⟩ := loads_transparent l t actions distinct
  obtain ⟨answer, found⟩ :=
    returns [.start "a.ts", .start "./a.ts"] "a.ts" (actions.drop 3) rfl (by decide +kernel)
  obtain ⟨reading, r, value⟩ := answers 2 _ answer found
  rw [r.unique newer] at value
  exact ⟨distinct, answer, found, value⟩

end PlaceholderExports.World
