import PlaceholderExports.Proofs.CommandLine.Listing
import PlaceholderExports.Proofs.CommandLine.Output
import PlaceholderExports.Proofs.Config.Validity
import PlaceholderExports.Proofs.Plugin.EntryPoints

/-!
# The exit status and the output of a command

A command with a valid configuration and valid inputs does one of three things with the files that
it handles: nothing, if there are none; a listing; or loading and delivering them
(`run_listExports`, `run_loadModules`). Each of them goes on after a failure, so its status says
whether there was one, its output holds what succeeded, and every failure is reported once
(`execute_report`). A file that can be loaded can be analysed, so a listing succeeds wherever a
plain run does.
-/

namespace PlaceholderExports

namespace CommandLine

/-! ### Results -/

section

variable {ε α : Type} {x : Except ε α}

/-- A result counts as true if it is a success. -/
lemma toBool_eq_true : x.toBool = true ↔ ∃ a, x = .ok a := by
  cases x with
  | error e => exact iff_of_false nofun nofun
  | ok a => exact iff_of_true rfl ⟨a, rfl⟩

/-- A result counts as false if it is a failure. -/
lemma toBool_eq_false : x.toBool = false ↔ ∃ e, x = .error e := by
  cases x with
  | error e => exact iff_of_true rfl ⟨e, rfl⟩
  | ok a => exact iff_of_false nofun nofun

variable {β : Type} {f : α → β}

/-- What is computed from a result is there if the result is one of those that it is computed
from. -/
lemma map_toOption_eq_some {b : β} : x.toOption.map f = some b ↔ ∃ a, x = .ok a ∧ f a = b := by
  cases x with
  | error e => exact iff_of_false nofun nofun
  | ok a => simp [Except.toOption]

/-- Nothing is computed from an error. -/
lemma map_toOption_eq_none : x.toOption.map f = none ↔ ∃ e, x = .error e := by
  cases x with
  | error e => exact iff_of_true rfl ⟨e, rfl⟩
  | ok a => exact iff_of_false nofun nofun

end

section

variable {α : Type} {answer : FsPath → Except Failure α} {files : List FsPath}

/-- All results are successes if each file has one. -/
lemma allSucceed_map :
    allSucceed (files.map fun file => (file, answer file)) = true ↔
      ∀ file ∈ files, ∃ a, answer file = .ok a := by
  unfold allSucceed
  rw [List.all_map, List.all_eq_true]
  exact forall₂_congr fun file _ => toBool_eq_true

/-- The successes are the answers of the files that have one. -/
lemma successes_map :
    successes (files.map fun file => (file, answer file)) =
      files.filterMap fun file => (answer file).toOption.map (file, ·) := by
  unfold successes
  rw [List.filterMap_map]
  refine List.filterMap_congr fun file _ => ?_
  simp only [Function.comp_apply]
  cases answer file <;> rfl

/-- The reports are those of the files that failed. -/
lemma reports_map (text : FsPath → Failure → String) :
    reports text (files.map fun file => (file, answer file)) =
      files.filterMap fun file =>
        match answer file with
        | .ok _ => none
        | .error failure => some (messageLine .error (text file failure)) :=
  List.filterMap_map

/-- The printed lines are those of the scripts that were loaded. -/
lemma scriptLines_map {answer : FsPath → Except Failure LoadResult} :
    scriptLines (files.map fun file => (file, answer file)) =
      files.flatMap fun file =>
        match answer file with
        | .ok r => if 1 < files.length then ["// File: " ++ file.text, r.code] else [r.code]
        | .error _ => [] := by
  unfold scriptLines
  rw [List.length_map, successes_map]
  generalize files.length = count
  induction files with
  | nil => rfl
  | cons file files ih =>
    rw [List.flatMap_cons, ← ih]
    cases found : answer file with
    | ok r => simp only [List.filterMap_cons, found]; rfl
    | error failure => simp only [List.filterMap_cons, found]; rfl

end

/-! ### Reports among lines -/

/-- Whether a line reports a failure. -/
def isReport (line : String) : Bool := "[ERROR] ".toList.isPrefixOf line.toList

section

variable {o : Options} {lines : List String}

/-- The line of an error is a report. -/
lemma isReport_messageLine (text : String) : isReport (messageLine .error text) = true := by
  unfold isReport messageLine
  rw [List.isPrefixOf_iff_prefix]
  simp only [String.toList_append, List.append_assoc]
  exact ⟨text.toList, rfl⟩

/-- The messages of the lowest level report nothing. -/
lemma IsChatter.filter_isReport (chatter : IsChatter o .debug lines) :
    lines.filter isReport = [] := by
  refine List.filter_eq_nil_iff.2 fun line mem => ?_
  obtain ⟨-, text, rfl⟩ := chatter line mem
  unfold isReport messageLine
  simp only [String.toList_append, List.append_assoc]
  exact Bool.false_ne_true

/-- All reports of failures are reports. -/
lemma filter_isReport_reports {α : Type} (text : FsPath → Failure → String)
    (results : List (FsPath × Except Failure α)) :
    (reports text results).filter isReport = reports text results := by
  refine List.filter_eq_self.2 fun line mem => ?_
  obtain ⟨⟨file, result⟩, -, reported⟩ := List.mem_filterMap.1 mem
  cases result with
  | ok a => cases reported
  | error failure =>
    cases reported
    exact isReport_messageLine _

end

/-! ### Listing and loading -/

section

variable (o : Options) (p : Plugin) (t : Terminal)

/-- Listing prints the successes as one text and reports the failures. -/
lemma run_listExports (files : List FsPath) :
    (listExports Terminal.shell p (console o) files).run t =
      (allSucceed (analyses p t files),
        t.wrote [listingText (successes (analyses p t files))]
          (reports analysisText (analyses p t files))) := by
  unfold listExports Shell.print
  rw [run_andThen (run_analyzeEach o p t files), run_andThen (run_out _ _), Terminal.wrote_wrote,
    List.append_nil]
  rfl

/-- What an emission on a terminal answers, if there is a directory for it. -/
def emission (cwd : String) (outDir? : Option String) (results : List Loaded) :
    Except Failure (List FsPath) :=
  match outDir? with
  | none => .ok []
  | some outDir => ((Terminal.shell.emit cwd (below cwd outDir) results).run t).1

/-- A delivery shows the scripts or writes them, and succeeds as the emission does. -/
lemma run_deliver (cwd : String) (outDir? : Option String) (results : List Loaded)
    (out err : List String) :
    ∃ (t' : Terminal) (lines : List String),
      (deliver Terminal.shell (console o) cwd outDir? results).run (t.wrote out err) =
        (((emission t cwd outDir? results).mapError .failure).map fun _ => (),
          t'.wrote (out ++ lines) err) ∧
      t'.streams = t.streams ∧ (outDir? = none → lines = scriptLines results) := by
  cases outDir? with
  | none =>
    refine ⟨t, scriptLines results, ?_, rfl, fun _ => rfl⟩
    unfold deliver
    rw [run_andThen (run_printAll _ _), Terminal.wrote_wrote, List.append_nil]
    rfl
  | some outDir =>
    have emitted := run_emit_wrote t out err cwd (below cwd outDir) results
    have streams := streams_emit t cwd (below cwd outDir) results
    unfold deliver emission
    dsimp only
    rw [run_andThen emitted]
    generalize (Terminal.shell.emit cwd (below cwd outDir) results).run t = outcome at streams
    obtain ⟨answer, t'⟩ := outcome
    cases answer with
    | error failure => exact ⟨t', [], by rw [List.append_nil]; rfl, streams, nofun⟩
    | ok paths =>
      obtain ⟨infos, -, told⟩ := run_reportScripts o (t'.wrote out err) paths
      refine ⟨t', infos, ?_, streams, nofun⟩
      rw [run_andThen told, Terminal.wrote_wrote, List.append_nil]
      rfl

/-- A terminal after files have been loaded and delivered: without a directory for them, their
scripts are on its output, behind some messages; and its errors report what failed, among other
lines. -/
structure Delivered (o : Options) (p : Plugin) (t : Terminal) (files : List FsPath)
    (t' : Terminal) : Prop where
  shown : o.outDir? = none → ∃ infos, IsChatter o .info infos ∧
    t'.streams.out = t.streams.out ++ infos ++ scriptLines (answers p t files)
  reported : ∃ lines, t'.streams.err = t.streams.err ++ lines ∧
    lines.filter isReport = reports loadText (answers p t files)

variable {o p t} in

/-- Lines that are no reports leave what was delivered as it is. -/
lemma Delivered.wrote {t' : Terminal} {files : List FsPath} (delivered : Delivered o p t files t')
    {lines : List String} (quiet : lines.filter isReport = []) :
    Delivered o p t files (t'.wrote [] lines) := by
  obtain ⟨errs, eq, reported⟩ := delivered.reported
  refine ⟨fun shows => ?_, errs ++ lines, ?_, ?_⟩
  · rw [t'.out_wrote, List.append_nil]
    exact delivered.shown shows
  · rw [t'.err_wrote, eq, List.append_assoc]
  · rw [List.filter_append, reported, quiet, List.append_nil]

/-- Loading modules goes on after a failure, and ends with whether there was one. -/
lemma run_loadModules {files : List FsPath} (ascending : StrictlyAscending files) (cwd : String) :
    ∃ t', (loadModules Terminal.shell p (console o) cwd o.outDir? files).run t =
        (((emission t cwd o.outDir? (answers p t files)).mapError .failure).map fun _ =>
          allSucceed (answers p t files), t') ∧
      Delivered o p t files t' := by
  obtain ⟨infos, notes, told, noted, loaded⟩ := run_loadAll o p t ascending
  obtain ⟨t', shown, run, streams, scripts⟩ := run_deliver o t cwd o.outDir? (answers p t files)
    infos (notes ++ reports loadText (answers p t files))
  have delivered : Delivered o p t files
      (t'.wrote (infos ++ shown) (notes ++ reports loadText (answers p t files))) := by
    refine ⟨fun shows => ⟨infos, told, ?_⟩, notes ++ reports loadText (answers p t files), ?_, ?_⟩
    · rw [t'.out_wrote, streams, scripts shows, List.append_assoc]
    · rw [t'.err_wrote, streams]
    · rw [List.filter_append, noted.filter_isReport, filter_isReport_reports, List.nil_append]
  unfold loadModules
  rw [run_andThen loaded, run_andThen (run_reportFailures o _ _), Terminal.wrote_wrote,
    List.append_nil, run_andThen run]
  cases emission t cwd o.outDir? (answers p t files) with
  | error failure => exact ⟨_, rfl, delivered⟩
  | ok paths =>
    have quiet : (chatLines o .debug (Plugin.name ++ ": cleanup")).filter isReport = [] :=
      (isChatter_chatLines o .debug _).filter_isReport
    refine ⟨_, ?_, delivered.wrote quiet⟩
    show StateT.run (p.cleanup (console o) >>= _) _ = _
    unfold Plugin.cleanup
    rw [run_andThen (run_debug o _ _)]
    rfl

end

/-! ### Commands that get to work -/

/-- Loading the settings looks at the files only. -/
lemma inspects_loadConfig (o : Options) : Inspects (loadConfig Terminal.shell o) := by
  have reads : ∀ path, Inspects (readConfig Terminal.shell path) := by
    intro path
    refine .bind (fun _ => rfl) fun text => ?_
    cases text <;> exact .pure _
  unfold loadConfig
  cases o.config? with
  | some path => exact reads path
  | none => exact .bind (fun _ => rfl) fun there => .ite (reads _) (.pure _)

/-- Loading the plugin looks at the files only. -/
lemma inspects_loadPlugin (o : Options) : Inspects (loadPlugin Terminal.shell o) := by
  refine .bind (inspects_loadConfig o) fun config => ?_
  cases config <;> exact .pure _

/-- Where there is no configuration, the plugin has the default one. -/
lemma loadPlugin_default {t : Terminal} {o : Options} (unnamed : o.config? = none)
    (absent : t.disk.contains ⟨Config.fileName⟩ = false)
    (valid : ({ sourceMap := o.sourceMap } : Config).fault? = none) :
    ((loadPlugin Terminal.shell o).run t).1 =
      .ok ⟨{ sourceMap := o.sourceMap }, .typeScript, valid⟩ := by
  have looked : (Terminal.shell.toFileStore.contains ⟨Config.fileName⟩).run t = (false, t) :=
    Prod.ext absent rfl
  have config : (loadConfig Terminal.shell o).run t = (.ok {}, t) := by
    unfold loadConfig
    rw [unnamed]
    dsimp only
    rw [run_andThen looked]
    rfl
  unfold loadPlugin
  rw [run_andThen config]
  dsimp only
  rw [Bool.or_false, Plugin.ofConfig_of_valid valid]
  rfl

/-- A command on a terminal whose arguments ask for a run with some options, whose configuration is
that of a plugin, and whose inputs are valid and leave some files to the plugin. -/
structure Setup (t : Terminal) (arguments : List String) (o : Options) (p : Plugin)
    (files : List FsPath) : Prop where
  asked : Request.ofArguments arguments = .ok (.run o)
  configured : ((loadPlugin Terminal.shell o).run t).1 = .ok p
  expanded : ∃ paths,
    ((expandInputs Terminal.shell.matchingFiles t.disk.workingPath o.inputs).run t).1 = .ok paths ∧
      files = paths.filter p.handles

section

variable {t t' : Terminal} {arguments : List String} {o : Options} {p : Plugin}
  {files : List FsPath}

/-- The files of a command ascend strictly. -/
lemma Setup.ascending (setup : Setup t arguments o p files) : StrictlyAscending files := by
  obtain ⟨paths, expanded, rfl⟩ := setup.expanded
  exact (ascending_expandInputs expanded).filter _

/-- Another command that asks for the same, but for a listing. -/
lemma Setup.listing (setup : Setup t arguments o p files) {arguments' : List String}
    (asked : Request.ofArguments arguments' = .ok (.run { o with list := true })) :
    Setup t arguments' { o with list := true } p files :=
  ⟨asked, setup.configured, setup.expanded⟩

/-- After its setup a command processes its files. -/
lemma Setup.run (setup : Setup t arguments o p files) :
    (CommandLine.run Terminal.shell o).run t =
      (process Terminal.shell o p t.disk.workingPath files).run t := by
  obtain ⟨paths, expanded, rfl⟩ := setup.expanded
  have found :=
    (inspects_expandInputs Terminal.still.matchingFiles t.disk.workingPath o.inputs).run_eq
    expanded
  have workingDir : StateT.run Terminal.shell.workingDir t = (t.disk.workingPath, t) := rfl
  unfold CommandLine.run
  rw [run_andThen ((inspects_loadPlugin o).run_eq setup.configured)]
  dsimp only
  rw [run_andThen workingDir, run_andThen found]

/-- The exit status of work that ends, and the terminal after an error is told. -/
def conclude (t : Terminal) : Except RunError Bool → UInt32 × Terminal
  | .ok true => (statusOk, t)
  | .ok false => (statusFailed, t)
  | .error e => (statusFailed, t.wrote [] ["Error: " ++ e.message])

/-- A command ends as the processing of its files does. -/
lemma Setup.execute (setup : Setup t arguments o p files) {worked : Except RunError Bool}
    (ends : (process Terminal.shell o p t.disk.workingPath files).run t = (worked, t')) :
    (CommandLine.execute Terminal.shell arguments).run t = conclude t' worked := by
  unfold CommandLine.execute
  rw [setup.asked]
  dsimp only
  rw [run_andThen (setup.run.trans ends)]
  cases worked with
  | error e =>
    dsimp only [Shell.printError]
    rw [run_andThen (run_err _ _)]
    rfl
  | ok succeeded => cases succeeded <;> rfl

/-! ### The three kinds of work -/

/-- A command without files warns and succeeds. -/
lemma Setup.execute_none (setup : Setup t arguments o p []) :
    (CommandLine.execute Terminal.shell arguments).run t =
      (statusOk, t.wrote [] [messageLine .warn "No input modules matched"]) := by
  have ends : (process Terminal.shell o p t.disk.workingPath []).run t =
      (.ok true, t.wrote [] [messageLine .warn "No input modules matched"]) := by
    unfold process
    show StateT.run ((console o).warn _ >>= _) t = _
    rw [run_andThen (run_warn o _ t)]
    rfl
  exact setup.execute ends

/-- A listing command prints its listing, and it succeeds if every file can be analyzed. -/
lemma Setup.execute_list (setup : Setup t arguments o p files) (some : files ≠ [])
    (list : o.list = true) :
    (CommandLine.execute Terminal.shell arguments).run t =
      (if allSucceed (analyses p t files) then statusOk else statusFailed,
        t.wrote [listingText (successes (analyses p t files))]
          (reports analysisText (analyses p t files))) := by
  have ends : (process Terminal.shell o p t.disk.workingPath files).run t =
      (.ok (allSucceed (analyses p t files)),
        t.wrote [listingText (successes (analyses p t files))]
          (reports analysisText (analyses p t files))) := by
    unfold process
    dsimp only
    rw [if_neg (fun empty => some (List.isEmpty_iff.1 empty)), if_pos list,
      run_andThen (run_listExports o p t files)]
    rfl
  rw [setup.execute ends]
  cases allSucceed (analyses p t files) <;> rfl

/-- A command that loads modules delivers them, and it succeeds if every file can be loaded and the
scripts can be written. -/
lemma Setup.execute_modules (setup : Setup t arguments o p files) (some : files ≠ [])
    (plain : o.list = false) :
    ∃ t', (CommandLine.execute Terminal.shell arguments).run t =
        (if allSucceed (answers p t files) ∧
            (emission t t.disk.workingPath o.outDir? (answers p t files)).toBool
          then statusOk else statusFailed, t') ∧
      Delivered o p t files t' := by
  obtain ⟨t', loads, delivered⟩ := run_loadModules o p t setup.ascending t.disk.workingPath
  have ends : (process Terminal.shell o p t.disk.workingPath files).run t =
      (loadModules Terminal.shell p (console o) t.disk.workingPath o.outDir? files).run t := by
    unfold process
    dsimp only
    rw [if_neg (fun empty => some (List.isEmpty_iff.1 empty)),
      if_neg (fun list => Bool.false_ne_true (plain.symm.trans list))]
  rw [setup.execute (ends.trans loads)]
  cases emission t t.disk.workingPath o.outDir? (answers p t files) with
  | error failure =>
    have quiet : ["Error: " ++ RunError.message (.failure failure)].filter isReport = [] := by
      refine List.filter_eq_nil_iff.2 fun line mem => ?_
      rw [List.mem_singleton.1 mem]
      unfold isReport
      rw [String.toList_append]
      exact Bool.false_ne_true
    refine ⟨_, ?_, delivered.wrote quiet⟩
    rw [if_neg (fun both => Bool.false_ne_true both.2)]
    rfl
  | ok paths =>
    refine ⟨t', ?_, delivered⟩
    cases allSucceed (answers p t files) <;> rfl

/-- The status is that of a success if the condition holds. -/
lemma ite_status {c : Prop} [Decidable c] :
    (if c then statusOk else statusFailed) = statusOk ↔ c := by
  split_ifs with h
  · exact iff_of_true rfl h
  · exact iff_of_false (by decide) h

/-- An emission is a success if the scripts can be written to the output directory, where one is
given. -/
lemma emission_toBool {cwd : String} {outDir? : Option String} {results : List Loaded} :
    (emission t cwd outDir? results).toBool = true ↔ ∀ outDir ∈ outDir?, ∃ paths,
      ((Terminal.shell.emit cwd (below cwd outDir) results).run t).1 = .ok paths := by
  unfold emission
  cases outDir? with
  | none => exact iff_of_true rfl nofun
  | some outDir =>
    simp only [Option.mem_def, Option.some.injEq, forall_eq']
    exact toBool_eq_true

/-- A command with a valid configuration and valid inputs, whose files ascend strictly by the bytes
of their paths. Without files it warns and succeeds. To load them, it succeeds if and only if every
file loads and, where there is a directory for them, the scripts are written; without one, they are
shown in the order of the files, each with its file before it if there are several; and for every
file that fails there is one report. To list them, it succeeds if and only if every file can be
analysed; the listing is a JSON object with a member for each file that can, in order, under its
path and with its names, which are those that loading gives where that succeeds; and again every
failure has one report. So a command that succeeds would succeed with a listing. -/
theorem execute_report (setup : Setup t arguments o p files) :
    let loaded := fun file => ((p.load (console o) file).run t).1
    let analyzed := fun file => ((p.analyze (console o) file).run t).1
    let cwd := t.disk.workingPath
    let written := fun outDir => ((Terminal.shell.emit cwd (below cwd outDir)
      (files.map fun file => (file, loaded file))).run t).1
    let entries := files.filterMap fun file => (analyzed file).toOption.map (file, ·)
    let outcome := (CommandLine.execute Terminal.shell arguments).run t
    StrictlyAscending files ∧
      (files = [] →
        outcome = (statusOk, t.wrote [] [messageLine .warn "No input modules matched"])) ∧
      (files ≠ [] → o.list = false →
        (outcome.1 = statusOk ↔ (∀ file ∈ files, ∃ r, loaded file = .ok r) ∧
          ∀ outDir ∈ o.outDir?, ∃ paths, written outDir = .ok paths) ∧
        (o.outDir? = none → ∃ infos, IsChatter o .info infos ∧
          outcome.2.streams.out = t.streams.out ++ infos ++ files.flatMap fun file =>
            match loaded file with
            | .ok r => if 1 < files.length then ["// File: " ++ file.text, r.code] else [r.code]
            | .error _ => []) ∧
        ∃ lines, outcome.2.streams.err = t.streams.err ++ lines ∧
          lines.filter isReport = files.filterMap fun file =>
            match loaded file with
            | .ok _ => none
            | .error failure => some (messageLine .error (file.text ++ ": " ++ failure.message))) ∧
      (files ≠ [] → o.list = true →
        (outcome.1 = statusOk ↔ ∀ file ∈ files, ∃ c, analyzed file = .ok c) ∧
        outcome.2.streams.out = t.streams.out ++ [listingText entries] ∧
        Json.IsDocument
          (.object (entries.map fun (file, c) =>
            (some file.text, .object [(some "exportsWithNoValue",
              .list (c.names.map fun name => .string (some name)))])))
          (listingText entries) ∧
        outcome.2.streams.err = t.streams.err ++ files.filterMap fun file =>
          match analyzed file with
          | .ok _ => none
          | .error failure => some (messageLine .error failure.message)) ∧
      (∀ file c r, analyzed file = .ok c → loaded file = .ok r → c.names = r.typeOnlyExports) ∧
      ∀ arguments', Request.ofArguments arguments' = .ok (.run { o with list := true }) →
        outcome.1 = statusOk →
          ((CommandLine.execute Terminal.shell arguments').run t).1 = statusOk := by
  intro loaded analyzed cwd written entries outcome
  have loaded_eq : loaded = fun file => p.answer file (t.disk.read file) :=
    funext fun file => p.load_run (.console (consoleLevel o)) t file
  have analyzed_eq : analyzed = fun file => p.findings file (t.disk.read file) :=
    funext fun file => congrArg Prod.fst (p.run_analyze (console o) file t)
  refine ⟨setup.ascending, ?none, ?modules, ?list, ?names, ?listing⟩
  case none =>
    rintro rfl
    exact setup.execute_none
  case modules =>
    intro some plain
    obtain ⟨t', ends, delivered⟩ := setup.execute_modules some plain
    have ends : outcome = _ := ends
    have written_eq : written = fun outDir => ((Terminal.shell.emit cwd (below cwd outDir)
        (answers p t files)).run t).1 := by
      funext outDir
      show ((Terminal.shell.emit cwd (below cwd outDir)
        (files.map fun file => (file, loaded file))).run t).1 = _
      rw [loaded_eq]
      rfl
    rw [ends, loaded_eq, written_eq]
    refine ⟨?status, ?shown, ?reported⟩
    case status =>
      rw [ite_status]
      exact and_congr allSucceed_map emission_toBool
    case shown =>
      intro shows
      obtain ⟨infos, told, eq⟩ := delivered.shown shows
      exact ⟨infos, told, eq.trans (congrArg _ scriptLines_map)⟩
    case reported =>
      obtain ⟨lines, eq, reported⟩ := delivered.reported
      refine ⟨lines, eq, ?_⟩
      rw [reported]
      refine (reports_map loadText).trans (List.filterMap_congr fun file _ => ?_)
      dsimp only
      cases p.answer file (t.disk.read file) <;> rfl
  case list =>
    intro some list
    have ends : outcome = _ := setup.execute_list some list
    have entries_eq : successes (analyses p t files) = entries := by
      show _ = files.filterMap fun file => (analyzed file).toOption.map (file, ·)
      rw [analyzed_eq]
      exact successes_map
    rw [ends, t.out_wrote, t.err_wrote, analyzed_eq, entries_eq]
    refine ⟨?_, rfl, isDocument_listingText entries, ?_⟩
    · rw [ite_status]
      exact allSucceed_map
    · refine congrArg _ ((reports_map analysisText).trans (List.filterMap_congr fun file _ => ?_))
      dsimp only
      cases p.findings file (t.disk.read file) <;> rfl
  case names =>
    intro file c r found loads
    rw [analyzed_eq] at found
    rw [loaded_eq] at loads
    obtain ⟨r', loads', names⟩ | ⟨messages, refused⟩ := p.answer_of_findings_ok file found
    · cases loads.symm.trans loads'
      exact names.symm
    · cases loads.symm.trans refused
  case listing =>
    intro arguments' asked succeeds
    have setup' := setup.listing asked
    by_cases empty : files = []
    · subst empty
      rw [setup'.execute_none]
    rw [setup'.execute_list empty rfl, ite_status]
    refine allSucceed_map.2 fun file mem => ?_
    cases plain : o.list with
    | true =>
      have ends : outcome = _ := setup.execute_list empty plain
      rw [ends, ite_status] at succeeds
      exact allSucceed_map.1 succeeds file mem
    | false =>
      obtain ⟨t', ends, -⟩ := setup.execute_modules empty plain
      have ends : outcome = _ := ends
      rw [ends, ite_status] at succeeds
      obtain ⟨r, loads⟩ := allSucceed_map.1 succeeds.1 file mem
      -- a file that cannot be analysed is not loaded either
      cases found : p.findings file (t.disk.read file) with
      | ok c => exact ⟨c, rfl⟩
      | error failure => cases loads.symm.trans (p.answer_of_findings_error file found)

end

/-- A directory with a type, a file that is no module, and a value. The command asks for all of its
files and once more for one of them, first for their scripts and then for a listing. -/
theorem execute_report_mixed :
    let t : Terminal :=
      { disk := { entries :=
          [(["a.ts"], .file (Text.encode "export type A = 1;")),
           (["b.ts"], .file (Text.encode "export type = ;")),
           (["c.ts"], .file (Text.encode "export const c = 1;"))] } }
    let plain := (CommandLine.execute Terminal.shell ["*.ts", "c.ts"]).run t
    let listing := (CommandLine.execute Terminal.shell ["*.ts", "--list", "c.ts"]).run t
    plain.1 ≠ statusOk ∧
      (∃ a c, plain.2.streams.out =
        ["// File: " ++ "/a.ts", a, "// File: " ++ "/c.ts", c]) ∧
      (∃ b, plain.2.streams.err.filter isReport = [messageLine .error ("/b.ts" ++ ": " ++ b)]) ∧
      listing.1 ≠ statusOk ∧
      listing.2.streams.out =
        ["\x7b\n" ++
         "  \"/a.ts\": \x7b\n" ++
         "    \"exportsWithNoValue\": [\n" ++
         "      \"A\"\n" ++
         "    ]\n" ++
         "  \x7d,\n" ++
         "  \"/c.ts\": \x7b\n" ++
         "    \"exportsWithNoValue\": []\n" ++
         "  \x7d\n" ++
         "\x7d"] ∧
      ∃ b, listing.2.streams.err = [messageLine .error b] := by
  intro t plain listing
  let p : Plugin := ⟨{}, .typeScript, rfl⟩
  let o : Options := { inputs := ["*.ts", "c.ts"] }
  let files : List FsPath := [⟨"/a.ts"⟩, ⟨"/b.ts"⟩, ⟨"/c.ts"⟩]
  have expanded :
      ((expandInputs Terminal.shell.matchingFiles t.disk.workingPath o.inputs).run t).1 =
      .ok files := by
    let found : List FsPath := [⟨"/a.ts"⟩, ⟨"/b.ts"⟩, ⟨"/c.ts"⟩, ⟨"/c.ts"⟩]
    have looked :
        ((argumentsPaths Terminal.shell.matchingFiles t.disk.workingPath o.inputs).run t).1 =
        .ok found := by decide +kernel
    have sorted : FsPath.sort found = found := sort_of_pairwise (by decide +kernel)
    rw [run_expandInputs, looked]
    show Except.ok (dropRepeats (FsPath.sort found)) = _
    rw [sorted]
    decide +kernel
  have setup : Setup t ["*.ts", "c.ts"] o p files :=
    ⟨by decide +kernel, loadPlugin_default rfl (by decide +kernel) p.valid, files, expanded,
      by decide +kernel⟩
  have listed : Setup t ["*.ts", "--list", "c.ts"] { o with list := true } p files :=
    setup.listing (by decide +kernel)
  -- from here on it matters only which files load and which can be analysed
  obtain ⟨loaded, loaded_eq⟩ :
      ∃ loaded, (fun file => ((p.load (console o) file).run t).1) = loaded :=
    ⟨_, rfl⟩
  have loads : ∀ file ∈ files, (loaded file).toBool = (file ≠ ⟨"/b.ts"⟩ : Bool) := by
    rw [← loaded_eq]
    decide +kernel
  obtain ⟨a, loadA⟩ := toBool_eq_true.1 (loads ⟨"/a.ts"⟩ (by decide))
  obtain ⟨b, loadB⟩ := toBool_eq_false.1 (loads ⟨"/b.ts"⟩ (by decide))
  obtain ⟨c, loadC⟩ := toBool_eq_true.1 (loads ⟨"/c.ts"⟩ (by decide))
  obtain ⟨analyzed, analyzed_eq⟩ : ∃ analyzed,
      (fun file => ((p.analyze (console { o with list := true }) file).run t).1) = analyzed :=
    ⟨_, rfl⟩
  have finds : files.map (fun file => (analyzed file).toOption.map (·.names)) =
      [some ["A"], none, some []] := by
    rw [← analyzed_eq]
    decide +kernel
  simp only [files, List.map_cons, List.map_nil, List.cons.injEq, and_true] at finds
  obtain ⟨findsA, findsB, findsC⟩ := finds
  obtain ⟨a', findA, namesA⟩ := map_toOption_eq_some.1 findsA
  obtain ⟨b', findB⟩ := map_toOption_eq_none.1 findsB
  obtain ⟨c', findC, namesC⟩ := map_toOption_eq_some.1 findsC
  obtain ⟨-, -, modules, -⟩ := execute_report setup
  rw [loaded_eq] at modules
  obtain ⟨status, out, err, errs, reported⟩ := modules (by decide) rfl
  obtain ⟨infos, told, shown⟩ := out rfl
  have quiet : infos = [] :=
    List.eq_nil_iff_forall_not_mem.2 fun line mem => Bool.false_ne_true (told line mem).1
  obtain ⟨-, -, -, list, -⟩ := execute_report listed
  rw [analyzed_eq] at list
  obtain ⟨listStatus, listOut, -, listErr⟩ := list (by decide) rfl
  have plain_eq : plain = (CommandLine.execute Terminal.shell ["*.ts", "c.ts"]).run t := rfl
  have listing_eq :
      listing = (CommandLine.execute Terminal.shell ["*.ts", "--list", "c.ts"]).run t :=
    rfl
  refine ⟨?status, ⟨a.code, c.code, ?scripts⟩, ⟨b.message, ?reports⟩, ?listStatus,
    ?listed, ⟨b'.message, ?listReports⟩⟩
  case status =>
    rw [plain_eq, ne_eq, status]
    rintro ⟨all, -⟩
    obtain ⟨r, loads⟩ := all ⟨"/b.ts"⟩ (by decide)
    cases loadB.symm.trans loads
  case scripts =>
    rw [plain_eq, shown, quiet]
    simp only [files, List.flatMap_cons, List.flatMap_nil, loadA, loadB, loadC]
    rfl
  case reports =>
    rw [plain_eq, errs, List.filter_append, reported]
    simp only [files, List.filterMap_cons, List.filterMap_nil, loadA, loadB, loadC]
    rfl
  case listStatus =>
    rw [listing_eq, ne_eq, listStatus]
    intro all
    obtain ⟨r, found⟩ := all ⟨"/b.ts"⟩ (by decide)
    cases findB.symm.trans found
  case listed =>
    rw [listing_eq, listOut]
    simp only [files, List.filterMap_cons, List.filterMap_nil, findA, findB, findC, Except.toOption,
      Option.map_some, Option.map_none, listingText, classificationText, List.map_cons,
      List.map_nil, namesA, namesC]
    decide +kernel
  case listReports =>
    rw [listing_eq, listErr]
    simp only [files, List.filterMap_cons, List.filterMap_nil, findA, findB, findC]
    rfl

end CommandLine

end PlaceholderExports
