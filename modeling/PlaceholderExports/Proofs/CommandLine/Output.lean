import PlaceholderExports.CommandLine.Run
import PlaceholderExports.Proofs.Batch.Calls
import PlaceholderExports.Proofs.Batch.Independence
import PlaceholderExports.Proofs.CommandLine.Inputs

/-!
# What a command writes

Before it emits scripts, a command changes nothing but the two standard streams of its terminal. So
what each of its steps does is said by two lists of lines, one for each stream (`Terminal.wrote`):
the messages of its logger, the scripts that it shows, and its listing. The messages of the lower
levels (`IsChatter`) are there only if they are asked for. An emission works on the disk alone, so
it does not matter what has been written before it (`run_emit_wrote`).
-/

namespace PlaceholderExports

/-! ### Written lines -/

/-- A terminal with some more lines on its two streams. -/
def Terminal.wrote (t : Terminal) (out err : List String) : Terminal :=
  { t with streams := ⟨t.streams.out ++ out, t.streams.err ++ err⟩ }

section

variable (t : Terminal) (out err out' err' : List String)

/-- Writing lines leaves the disk as it is. -/
@[simp] lemma Terminal.disk_wrote : (t.wrote out err).disk = t.disk := rfl

/-- Lines for the output go behind those that are there. -/
@[simp] lemma Terminal.out_wrote : (t.wrote out err).streams.out = t.streams.out ++ out := rfl

/-- Lines for the errors go behind those that are there. -/
@[simp] lemma Terminal.err_wrote : (t.wrote out err).streams.err = t.streams.err ++ err := rfl

/-- Writing no lines changes nothing. -/
lemma Terminal.wrote_nil : t.wrote [] [] = t := by
  simp [wrote]

/-- Lines that are written after others are written behind them. -/
@[simp] lemma Terminal.wrote_wrote :
    (t.wrote out err).wrote out' err' = t.wrote (out ++ out') (err ++ err') := by
  simp [wrote]

end

namespace CommandLine

/-- The surroundings of the plugin of a command on a terminal. -/
abbrev console (o : Options) : Host (StateM Terminal) :=
  Terminal.shell.host (.console (consoleLevel o))

/-! ### Messages -/

/-- A message as a line. -/
def messageLine (level : LogLevel) (text : String) : String :=
  "[" ++ level.label ++ "] " ++ text

/-- The lines of a message that is shown only if that is asked for. -/
def chatLines (o : Options) (level : LogLevel) (text : String) : List String :=
  if o.verbose then [messageLine level text] else []

/-- Lines that are messages of a level, and that are there only if they are asked for. -/
def IsChatter (o : Options) (level : LogLevel) (lines : List String) : Prop :=
  ∀ line ∈ lines, o.verbose = true ∧ ∃ text, line = messageLine level text

section

variable {o : Options} {level : LogLevel} {lines lines' : List String}

/-- No lines are chatter of any level. -/
lemma IsChatter.nil : IsChatter o level [] := nofun

/-- Chatter after chatter is chatter. -/
lemma IsChatter.append (h : IsChatter o level lines) (h' : IsChatter o level lines') :
    IsChatter o level (lines ++ lines') := by
  intro line mem
  rcases List.mem_append.1 mem with mem | mem
  · exact h line mem
  · exact h' line mem

/-- What is said at a level is chatter of that level. -/
lemma isChatter_chatLines (o : Options) (level : LogLevel) (text : String) :
    IsChatter o level (chatLines o level text) := by
  intro line mem
  unfold chatLines at mem
  split_ifs at mem with verbose
  · exact ⟨verbose, text, List.mem_singleton.1 mem⟩
  · cases mem

end

section

variable (o : Options) (text : String) (t : Terminal)

/-- A line that is printed goes to the output. -/
lemma run_out (line : String) :
    (Terminal.shell.printLine .out line).run t = ((), t.wrote [line] []) := by
  show ((), _) = ((), _)
  simp [Terminal.wrote, Streams.printLine]

/-- A line that is printed as an error goes to the errors. -/
lemma run_err (line : String) :
    (Terminal.shell.printLine .err line).run t = ((), t.wrote [] [line]) := by
  show ((), _) = ((), _)
  simp [Terminal.wrote, Streams.printLine]

/-- An entry that is shown is printed on its stream. -/
lemma run_log {entry : LogEntry} {stream : StandardStream} {line : String}
    (shows : (Logger.console (consoleLevel o)).line? entry = some (stream, line)) :
    ((console o).log entry).run t = (Terminal.shell.printLine stream line).run t := by
  simp only [console, Shell.host, shows]

/-- An entry that is hidden leaves no trace. -/
lemma run_log_of_none {entry : LogEntry}
    (hides : (Logger.console (consoleLevel o)).line? entry = none) :
    ((console o).log entry).run t = ((), t.wrote [] []) := by
  rw [t.wrote_nil]
  simp only [console, Shell.host, hides]
  rfl

/-- What a debug entry leaves on the terminal. -/
lemma run_debug : ((console o).debug text).run t = ((), t.wrote [] (chatLines o .debug text)) := by
  unfold chatLines
  split_ifs with verbose
  · exact (run_log o t (by simp only [consoleLevel, verbose]; rfl)).trans (run_err t _)
  · exact run_log_of_none o t (by simp only [consoleLevel, verbose]; rfl)

/-- What an information leaves on the terminal. -/
lemma run_info : ((console o).info text).run t = ((), t.wrote (chatLines o .info text) []) := by
  unfold chatLines
  split_ifs with verbose
  · exact (run_log o t (by simp only [consoleLevel, verbose]; rfl)).trans (run_out t _)
  · exact run_log_of_none o t (by simp only [consoleLevel, verbose]; rfl)

/-- What a warning leaves on the terminal. -/
lemma run_warn : ((console o).warn text).run t = ((), t.wrote [] [messageLine .warn text]) := by
  refine (run_log o t ?_).trans (run_err t _)
  unfold consoleLevel
  split_ifs <;> rfl

/-- What an error leaves on the terminal. -/
lemma run_error : ((console o).error text).run t = ((), t.wrote [] [messageLine .error text]) := by
  refine (run_log o t ?_).trans (run_err t _)
  unfold consoleLevel
  split_ifs <;> rfl

end

/-! ### Loading and analysing -/

/-- What follows from some files of a terminal when they are loaded. -/
def answers (p : Plugin) (t : Terminal) (files : List FsPath) : List Loaded :=
  files.map fun file => (file, p.answer file (t.disk.read file))

/-- What follows from some files of a terminal when they are analysed. -/
def analyses (p : Plugin) (t : Terminal) (files : List FsPath) :
    List (FsPath × Except Failure Classification) :=
  files.map fun file => (file, p.findings file (t.disk.read file))

section

variable (o : Options) (p : Plugin) (t : Terminal)

/-- Loading a module answers what follows from its file, and may send a message. -/
lemma run_load (file : FsPath) :
    ∃ notes, IsChatter o .debug notes ∧
      (p.load (console o) file).run t = (p.answer file (t.disk.read file), t.wrote [] notes) := by
  rw [p.run_load, p.read_run]
  cases t.disk.read file with
  | error e => exact ⟨[], .nil, by rw [t.wrote_nil]; rfl⟩
  | ok contents =>
    show ∃ notes, _ ∧ (p.loadContents (console o) file contents).run t = _
    rw [p.run_loadContents]
    unfold Plugin.note
    cases p.language.prepare (.ofPath file) p.config.placeholderName file contents with
    | error failure => exact ⟨[], .nil, by rw [t.wrote_nil]; rfl⟩
    | ok prepared =>
      dsimp only
      split_ifs with none
      · exact ⟨[], .nil, by rw [t.wrote_nil]; rfl⟩
      · rw [run_debug]
        exact ⟨_, isChatter_chatLines o .debug _, rfl⟩

/-- Loading files answers what follows from each of them. -/
lemma run_loadEach (files : List FsPath) :
    ∃ notes, IsChatter o .debug notes ∧
      (p.loadEach (console o) files).run t =
        (answers p t files, t.wrote [] notes) := by
  induction files generalizing t with
  | nil => exact ⟨[], .nil, by rw [t.wrote_nil]; rfl⟩
  | cons file files ih =>
    obtain ⟨notes, chatter, load⟩ := run_load o p t file
    obtain ⟨notes', chatter', rest⟩ := ih (t.wrote [] notes)
    refine ⟨notes ++ notes', chatter.append chatter', ?_⟩
    unfold Plugin.loadEach
    rw [run_andThen load, run_andThen rest, t.wrote_wrote]
    rfl

/-- The answers for ascending files ascend. -/
lemma StrictlyAscending.answers {files : List FsPath} (ascending : StrictlyAscending files) :
    Ascending (answers p t files) :=
  List.pairwise_map.2 (ascending.imp fun less => Text.encode_le_iff.1 (List.le_of_lt less))

/-- Loading files whose paths ascend gives their results in this order. -/
lemma run_loadAll {files : List FsPath} (ascending : StrictlyAscending files) :
    ∃ infos notes, IsChatter o .info infos ∧ IsChatter o .debug notes ∧
      (p.loadAll (console o) files).run t =
        (answers p t files, t.wrote infos notes) := by
  let begins := chatLines o .info ("Loading " ++ toString files.length ++ " modules in parallel...")
  let ends := chatLines o .info ("Loading finished in " ++ durationText (0 - 0))
  obtain ⟨notes, chatter, each⟩ := run_loadEach o p (t.wrote begins []) files
  refine ⟨begins ++ ends, notes,
    IsChatter.append (isChatter_chatLines o .info _) (isChatter_chatLines o .info _), chatter, ?_⟩
  have clock : ∀ t, StateT.run (console o).clock t = (0, t) := fun _ => rfl
  have info : ∀ text t,
      ((console o).info text).run t = ((), t.wrote (chatLines o .info text) []) := run_info o
  unfold Plugin.loadAll
  rw [run_andThen (clock t), run_andThen (info _ t), run_andThen each, run_andThen (clock _),
    run_andThen (info _ _), sortLoaded_of_ascending (ascending.answers p _)]
  simp only [Terminal.wrote_wrote, List.append_nil, List.nil_append]
  rfl

/-- The reports of the results that are failures. -/
def reports {α : Type} (text : FsPath → Failure → String)
    (results : List (FsPath × Except Failure α)) : List String :=
  results.filterMap fun (file, result) =>
    match result with
    | .ok _ => none
    | .error failure => some (messageLine .error (text file failure))

/-- What is reported of a file that cannot be loaded. -/
def loadText (file : FsPath) (failure : Failure) : String := file.text ++ ": " ++ failure.message

/-- What is reported of a file that cannot be analysed. -/
def analysisText (_ : FsPath) (failure : Failure) : String := failure.message

/-- Reporting failures writes a line for each of them. -/
lemma run_reportFailures (results : List Loaded) :
    (reportFailures (console o) results).run t = ((), t.wrote [] (reports loadText results)) := by
  induction results generalizing t with
  | nil => exact congrArg (Prod.mk ()) t.wrote_nil.symm
  | cons loaded results ih =>
    obtain ⟨file, result⟩ := loaded
    cases result with
    | ok r => exact ih t
    | error failure =>
      unfold reportFailures
      rw [run_andThen (run_error o _ t), ih, t.wrote_wrote]
      rfl

/-- Printing lines writes all of them to the output. -/
lemma run_printAll (lines : List String) :
    (printAll Terminal.shell lines).run t = ((), t.wrote lines []) := by
  induction lines generalizing t with
  | nil => exact congrArg (Prod.mk ()) t.wrote_nil.symm
  | cons line lines ih =>
    unfold printAll Shell.print
    rw [run_andThen (run_out t line), ih, t.wrote_wrote]
    rfl

/-- Reporting scripts writes nothing but chatter. -/
lemma run_reportScripts (paths : List FsPath) :
    ∃ infos, IsChatter o .info infos ∧
      (reportScripts (console o) paths).run t = ((), t.wrote infos []) := by
  induction paths generalizing t with
  | nil => exact ⟨[], .nil, by rw [t.wrote_nil]; rfl⟩
  | cons path paths ih =>
    let text := "Emitted: " ++ path.text
    obtain ⟨infos, chatter, rest⟩ := ih (t.wrote (chatLines o .info text) [])
    refine ⟨chatLines o .info text ++ infos,
      IsChatter.append (isChatter_chatLines o .info text) chatter, ?_⟩
    unfold reportScripts
    rw [run_andThen (run_info o _ t), rest, t.wrote_wrote]
    rfl

/-- Analysing files finds what follows from each of them, and reports those that fail. -/
lemma run_analyzeEach (files : List FsPath) :
    (analyzeEach p (console o) files).run t =
      (analyses p t files, t.wrote [] (reports analysisText (analyses p t files))) := by
  induction files generalizing t with
  | nil => exact congrArg (Prod.mk []) t.wrote_nil.symm
  | cons file files ih =>
    have analysis : (p.analyze (console o) file).run t = (p.findings file (t.disk.read file), t) :=
      p.run_analyze (console o) file t
    unfold analyzeEach
    rw [run_andThen analysis]
    cases found : p.findings file (t.disk.read file) with
    | ok c =>
      show StateT.run (analyzeEach p (console o) files >>= _) t = _
      rw [run_andThen (ih t)]
      simp only [analyses, List.map_cons, found]
      rfl
    | error failure =>
      rw [run_andThen (run_error o _ t), run_andThen (ih _)]
      simp only [analyses, List.map_cons, found, Terminal.disk_wrote, t.wrote_wrote]
      rfl

end

/-! ### Emitting -/

section

variable (t : Terminal) (out err : List String)

/-- Writing a file changes nothing but the disk, and not even that if it fails. -/
lemma run_write (path : FsPath) (text : String) :
    (Terminal.shell.call (.write path text)).run t =
      match t.disk.write path (Text.encode text) with
      | .ok disk => (.ok (), { t with disk })
      | .error e => (.error e, t) := by
  show (Terminal.change fun d => d.write path (Text.encode text)).run t = _
  have got : StateT.run (get : StateM Terminal Terminal) t = (t, t) := rfl
  unfold Terminal.change
  rw [run_andThen got]
  dsimp only
  cases t.disk.write path (Text.encode text) <;> rfl

/-- A call works on the disk alone. -/
lemma run_call_wrote (call : StoreCall) :
    (Terminal.shell.call call).run (t.wrote out err) =
      (((Terminal.shell.call call).run t).1,
        ((Terminal.shell.call call).run t).2.wrote out err) := by
  cases call with
  | ensureDir path => rfl
  | write path text =>
    rw [run_write, run_write, t.disk_wrote]
    cases t.disk.write path (Text.encode text) <;> rfl

/-- Calls for the disk do the same whatever was written to the terminal before. -/
lemma run_perform_wrote (calls : List StoreCall) :
    (Terminal.shell.perform calls).run (t.wrote out err) =
      (((Terminal.shell.perform calls).run t).1,
        ((Terminal.shell.perform calls).run t).2.wrote out err) := by
  induction calls generalizing t with
  | nil => rfl
  | cons call calls ih =>
    have wrote := run_call_wrote t out err call
    obtain ⟨⟨answer, t'⟩, made⟩ : ∃ outcome, (Terminal.shell.call call).run t = outcome := ⟨_, rfl⟩
    rw [made] at wrote
    unfold FileStore.perform
    rw [run_andThen made, run_andThen wrote]
    cases answer with
    | ok => exact ih t'
    | error cause => rfl -- the other calls are left out

/-- An emission works on the disk alone. -/
lemma run_emit_wrote (root outDir : String) (results : List Loaded) :
    (Terminal.shell.emit root outDir results).run (t.wrote out err) =
      (((Terminal.shell.emit root outDir results).run t).1,
        ((Terminal.shell.emit root outDir results).run t).2.wrote out err) := by
  let calls := emissionCalls root outDir results
  have wrote := run_perform_wrote t out err calls
  obtain ⟨⟨answer, t'⟩, made⟩ : ∃ outcome, (Terminal.shell.perform calls).run t = outcome :=
    ⟨_, rfl⟩
  rw [made] at wrote
  unfold FileStore.emit
  rw [run_andThen made, run_andThen wrote]
  cases answer <;> rfl

/-- An emission leaves the two streams as they are. -/
lemma streams_emit (root outDir : String) (results : List Loaded) :
    ((Terminal.shell.emit root outDir results).run t).2.streams = t.streams := by
  let keeps (s : Terminal) : Prop := s.streams = t.streams
  show keeps _
  refine emit_keeps Terminal.shell.toFileStore (fun call _ s kept => ?_) rfl
  cases call with
  | ensureDir path => exact kept
  | write path text =>
    rw [run_write]
    cases s.disk.write path (Text.encode text) <;> exact kept

end

end CommandLine

end PlaceholderExports
