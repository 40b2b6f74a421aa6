import Mathlib
import PlaceholderExports.Proofs.Plugin.Result
import PlaceholderExports.Session

/-!
# Agreement of the entry points

Analysing and loading a module read its file once, and what follows depends on the reading alone:
`Plugin.findings` is what an analysis makes of it, and `Plugin.answer` what loading makes of it. A
reading that cannot be analysed is not loaded either, for the same reason; one that can is loaded
with the names of the analysis, or fails in the transformation (`entryPoints_agree`).
-/

namespace PlaceholderExports.Plugin

/-- What an analysis makes of the reading of the file of a module. -/
def findings (p : Plugin) (path : FsPath) :
    Except StoreError String → Except Failure Classification
  | .ok contents => p.language.analyze (.ofPath path) path contents
  | .error e => .error (.store path e)

/-! ### Outcomes of a reading -/

section Outcomes

variable (p : Plugin) (path : FsPath) {reading : Except StoreError String} {failure : Failure}

/-- The analysis of a text classifies its statements. -/
lemma findings_ok (contents : String) :
    p.findings path (.ok contents) =
      match p.language.reduce (.ofPath path) contents with
      | .ok statements => .ok (classify statements)
      | .error messages => .error (.parse path messages) := by
  change
    ((p.language.reduce (.ofPath path) contents).mapError (Failure.parse path)).map classify = _
  cases p.language.reduce (.ofPath path) contents <;> rfl

/-- The preparation of a text fails as its analysis does. -/
lemma prepare_eq (contents : String) :
    p.language.prepare (.ofPath path) p.config.placeholderName path contents =
      (p.findings path (.ok contents)).map fun c =>
        { source := Placeholder.append contents c (c.placeholder p.config.placeholderName)
          classification := c } :=
  rfl

/-- An analysis fails if the file cannot be read or its text does not parse. -/
lemma findings_eq_error :
    p.findings path reading = .error failure ↔
      (∃ e, reading = .error e ∧ failure = .store path e) ∨
        ∃ contents messages, reading = .ok contents ∧
          p.language.reduce (.ofPath path) contents = .error messages ∧
          failure = .parse path messages := by
  cases reading with
  | error e =>
    constructor
    · intro failed
      cases failed
      exact .inl ⟨e, rfl, rfl⟩
    · rintro (⟨e', same, rfl⟩ | ⟨contents, messages, same, -⟩)
      · cases same
        rfl
      · cases same
  | ok contents =>
    rw [findings_ok]
    cases reduced : p.language.reduce (.ofPath path) contents with
    | ok statements =>
      refine ⟨nofun, ?_⟩
      rintro (⟨e, same, -⟩ | ⟨contents', messages, same, refused, -⟩)
      · cases same
      · cases same
        rw [reduced] at refused
        cases refused
    | error messages =>
      constructor
      · intro failed
        cases failed
        exact .inr ⟨contents, messages, rfl, reduced, rfl⟩
      · rintro (⟨e, same, -⟩ | ⟨contents', messages', same, refused, rfl⟩)
        · cases same
        · cases same
          rw [reduced] at refused
          cases refused
          rfl

/-- What cannot be analysed is not loaded, for the same reason. -/
lemma answer_of_findings_error (failed : p.findings path reading = .error failure) :
    p.answer path reading = .error failure := by
  cases reading with
  | error e =>
    cases failed
    rfl
  | ok contents =>
    show p.result path contents = _
    unfold result
    rw [prepare_eq, failed]
    rfl

/-- What can be analysed is loaded with the names that were found, or cannot be transformed. -/
lemma answer_of_findings_ok {c : Classification} (found : p.findings path reading = .ok c) :
    (∃ r, p.answer path reading = .ok r ∧ r.typeOnlyExports = c.names) ∨
      ∃ messages, p.answer path reading = .error (.transform path messages) := by
  cases reading with
  | error e => cases found
  | ok contents =>
    show (∃ r, p.result path contents = .ok r ∧ _) ∨ ∃ messages, p.result path contents = _
    unfold result
    rw [prepare_eq, found]
    dsimp only [Except.map]
    cases p.language.transform _ _ _ _ with
    | ok script => exact .inl ⟨_, rfl, rfl⟩
    | error messages => exact .inr ⟨messages, rfl⟩

/-- A failure of an analysis has the path of the file. -/
lemma path?_of_findings_error (failed : p.findings path reading = .error failure) :
    failure.path? = some path := by
  obtain ⟨e, -, rfl⟩ | ⟨contents, messages, -, -, rfl⟩ := (p.findings_eq_error path).1 failed
  · rfl
  · rfl

/-- A failure of a load has the path of the file. -/
lemma path?_of_answer_error (failed : p.answer path reading = .error failure) :
    failure.path? = some path := by
  cases found : p.findings path reading with
  | error failure' =>
    rw [p.answer_of_findings_error path found] at failed
    cases failed
    exact p.path?_of_findings_error path found
  | ok c =>
    obtain ⟨r, loaded, -⟩ | ⟨messages, refused⟩ := p.answer_of_findings_ok path found
    · rw [loaded] at failed
      cases failed
    · rw [refused] at failed
      cases failed
      rfl

end Outcomes

/-! ### Entry points in any surroundings -/

section Running

variable {σ : Type} (p : Plugin) (h : Host (StateM σ)) (path : FsPath) (s : σ)

/-- A plugin reads a file as the host does, and a failure has its path. -/
lemma run_read :
    (p.read h path).run s =
      (((h.read path).run s).1.mapError (.store path), ((h.read path).run s).2) :=
  rfl

/-- An analysis gives its findings for the text of the file, and nothing else is done. -/
lemma run_analyze :
    (p.analyze h path).run s =
      (p.findings path ((h.read path).run s).1, ((h.read path).run s).2) := by
  unfold analyze
  rw [StateT.run_bind, run_read]
  obtain ⟨reading, s'⟩ := (h.read path).run s
  cases reading <;> rfl

/-- A load of a text gives its result and notes what it found. -/
lemma run_loadContents (contents : String) :
    (p.loadContents h path contents).run s =
      (p.result path contents, ((p.note h path contents).run s).2) := by
  rw [loadContents_eq]
  rfl

/-- Loading a module loads the text that was read. -/
lemma run_load :
    (p.load h path).run s =
      match (p.read h path).run s with
      | (.ok contents, s') => (p.loadContents h path contents).run s'
      | (.error failure, s') => (.error failure, s') := by
  unfold load
  rw [StateT.run_bind]
  obtain ⟨reading, s'⟩ := (p.read h path).run s
  cases reading <;> rfl

/-- Loading a module answers what follows from the reading of its file. -/
lemma answer_load : ((p.load h path).run s).1 = p.answer path ((h.read path).run s).1 := by
  rw [run_load, run_read]
  obtain ⟨reading, s'⟩ := (h.read path).run s
  cases reading with
  | error e => rfl
  | ok contents => exact congrArg Prod.fst (p.run_loadContents h path s' contents)

/-- The message of a text is one line with its names, if it parses and has names to report. -/
lemma run_note (contents : String) :
    ((p.note h path contents).run s).2 =
      match p.language.reduce (.ofPath path) contents with
      | .ok statements =>
        if (classify statements).names = [] then s
        else ((h.log ⟨.debug, placeholderNote path (classify statements).names⟩).run s).2
      | .error _ => s := by
  unfold note
  rw [prepare_eq, findings_ok]
  cases p.language.reduce (.ofPath path) contents with
  | error messages => rfl
  | ok statements =>
    dsimp only [Except.map]
    by_cases none : (classify statements).names = []
    · rw [if_pos none, if_pos (List.isEmpty_iff.2 none)]
      rfl
    · rw [if_neg none, if_neg (fun empty => none (List.isEmpty_iff.1 empty))]
      rfl

/-- In any surroundings, loading a module is loading the text that was read. An analysis fails if
the file cannot be read or its text does not parse, and then loading fails in the same way;
otherwise loading gives the names of the analysis or fails in the transformation. Every failure
names the module. Loading a text sends one message, which names the module and its placeholder
exports, if the text parses and there are any. -/
theorem entryPoints_agree :
    ((p.load h path).run s =
      match (p.read h path).run s with
      | (.ok contents, s') => (p.loadContents h path contents).run s'
      | (.error failure, s') => (.error failure, s')) ∧
      (∀ failure, ((p.analyze h path).run s).1 = .error failure ↔
        (∃ e, ((h.read path).run s).1 = .error e ∧ failure = .store path e) ∨
          ∃ contents messages, ((h.read path).run s).1 = .ok contents ∧
            p.language.reduce (.ofPath path) contents = .error messages ∧
            failure = .parse path messages) ∧
      (∀ failure, ((p.analyze h path).run s).1 = .error failure →
        ((p.load h path).run s).1 = .error failure) ∧
      (∀ c, ((p.analyze h path).run s).1 = .ok c →
        (∃ r, ((p.load h path).run s).1 = .ok r ∧ r.typeOnlyExports = c.names) ∨
          ∃ messages, ((p.load h path).run s).1 = .error (.transform path messages)) ∧
      (∀ failure, ((p.read h path).run s).1 = .error failure ∨
          ((p.analyze h path).run s).1 = .error failure ∨
          ((p.load h path).run s).1 = .error failure ∨
          (∃ contents, ((p.loadContents h path contents).run s).1 = .error failure) →
        failure.path? = some path) ∧
      ∀ contents, ((p.loadContents h path contents).run s).2 =
        match p.language.reduce (.ofPath path) contents with
        | .ok statements =>
          let names := (classify statements).names
          if names = [] then s
          else ((h.log ⟨.debug, path.text ++ ": placeholder exports for " ++
            ", ".intercalate names⟩).run s).2
        | .error _ => s := by
  refine ⟨p.run_load h path s, ?reasons, ?sameFailure, ?names, ?paths, ?message⟩
  case reasons =>
    intro failure
    rw [run_analyze]
    exact p.findings_eq_error path
  case sameFailure =>
    intro failure failed
    rw [run_analyze] at failed
    rw [answer_load]
    exact p.answer_of_findings_error path failed
  case names =>
    intro c found
    rw [run_analyze] at found
    rw [answer_load]
    exact p.answer_of_findings_ok path found
  case paths =>
    rintro failure (failed | failed | failed | ⟨contents, failed⟩)
    · rw [run_read] at failed
      cases reading : ((h.read path).run s).1 with
      | error e =>
        rw [reading] at failed
        cases failed
        rfl
      | ok contents =>
        rw [reading] at failed
        cases failed
    · rw [run_analyze] at failed
      exact p.path?_of_findings_error path failed
    · rw [answer_load] at failed
      exact p.path?_of_answer_error path failed
    · rw [run_loadContents] at failed
      exact p.path?_of_answer_error path (show p.answer path (.ok contents) = _ from failed)
  case message =>
    intro contents
    rw [run_loadContents]
    exact p.run_note h path s contents

end Running

/-- In a language in which nothing can be transformed, a text that does not parse fails in the same
way for both entry points. A text with a type parses: it is found by the analysis, and loading it
sends the message before it fails. -/
theorem entryPoints_agree_untransformed :
    let language : Frontend :=
      { reduce := fun _ text =>
          if text = "" then .ok [⟨.typeAlias "A", true⟩] else .error ["no module"]
        transform := fun _ _ _ _ => .error ["no script"] }
    let p : Plugin := ⟨{}, language, rfl⟩
    let s : Session := { store := .ofFiles [(⟨"a.ts"⟩, []), (⟨"b.ts"⟩, Text.encode "type")] }
    ((p.analyze Session.host ⟨"b.ts"⟩).run s).1 = .error (.parse ⟨"b.ts"⟩ ["no module"]) ∧
      ((p.load Session.host ⟨"b.ts"⟩).run s).1 = .error (.parse ⟨"b.ts"⟩ ["no module"]) ∧
      ((p.analyze Session.host ⟨"a.ts"⟩).run s).1 = .ok (classify [⟨.typeAlias "A", true⟩]) ∧
      (∃ messages, ((p.load Session.host ⟨"a.ts"⟩).run s).1 =
        .error (.transform ⟨"a.ts"⟩ messages)) ∧
      ((p.loadContents Session.host ⟨"a.ts"⟩ "").run s).2.log =
        [⟨.debug, "a.ts: placeholder exports for A"⟩] := by
  intro language p s
  have refused : ((p.analyze Session.host ⟨"b.ts"⟩).run s).1 =
      .error (.parse ⟨"b.ts"⟩ ["no module"]) := by rfl
  have found : ((p.analyze Session.host ⟨"a.ts"⟩).run s).1 =
      .ok (classify [⟨.typeAlias "A", true⟩]) := by rfl
  obtain ⟨-, -, same, -⟩ := entryPoints_agree p Session.host ⟨"b.ts"⟩ s
  obtain ⟨-, -, -, names, -, message⟩ := entryPoints_agree p Session.host ⟨"a.ts"⟩ s
  refine ⟨refused, same _ refused, found, ?_, ?_⟩
  · obtain ⟨r, loaded, -⟩ | untransformed := names _ found
    · cases loaded
    · exact untransformed
  · rw [message]
    rfl

end PlaceholderExports.Plugin
