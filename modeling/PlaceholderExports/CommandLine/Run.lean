import PlaceholderExports.Batch
import PlaceholderExports.CommandLine.Inputs
import PlaceholderExports.CommandLine.Usage
import PlaceholderExports.Glob.Walk
import PlaceholderExports.Text.Quoted

/-!
# Running the command

The command reads its configuration, expands its inputs, and either lists the type-only exports of
the modules that its plugin handles, or loads them and writes their scripts below a directory or on
standard output. A module that fails is reported and does not stop the others.

A listing is a JSON object with one entry for each path. Nested values are indented by two blanks
for each level, and what is empty stays on one line.

* `listingText`: the listing of some modules.
* `run`: what the command does for some options; it says whether every module succeeded.
* `execute`: the command with its arguments and its exit status.
-/

namespace PlaceholderExports.CommandLine

/-- Why the command ends early. -/
inductive RunError where
  /-- The file of the configuration cannot be read. -/
  | unreadableConfig (path : String) (cause : StoreError)
  /-- The text of the configuration is not valid. -/
  | badConfig (path : String) (cause : ConfigError)
  | input (cause : InputError)
  | failure (cause : Failure)
deriving DecidableEq, Repr

/-- The wording of a failure, followed by the refusal behind it. -/
def chainText : Failure → String
  | .store path cause => (Failure.store path cause).message ++ ": " ++ cause.message
  | f => f.message

/-- The wording of an error. -/
def RunError.message : RunError → String
  | unreadableConfig path cause => "failed to load config " ++ path ++ ": " ++ cause.message
  | badConfig path cause =>
    "failed to load config " ++ path ++ ": " ++ (Failure.config cause).message
  | input cause => cause.message
  | failure cause => chainText cause

/-! ### Texts of listings -/

/-- Lines between two brackets, with commas after all but the last, or the brackets alone. -/
def bracketed (opening closing : String) (indent : String) (items : List String) : String :=
  if items.isEmpty then opening ++ closing
  else
    opening ++ "\n" ++ ",\n".intercalate (items.map (indent ++ "  " ++ ·)) ++ "\n" ++ indent ++
      closing

/-- The names of one module as a list on the second level. -/
def namesText (names : List String) : String := bracketed "[" "]" "    " (names.map Text.quote)

/-- The classification of one module as an object on the first level. -/
def classificationText (c : Classification) : String :=
  bracketed "\x7b" "\x7d" "  " [Text.quote "exportsWithNoValue" ++ ": " ++ namesText c.names]

/-- A listing. -/
def listingText (entries : List (FsPath × Classification)) : String :=
  bracketed "\x7b" "\x7d" ""
    (entries.map fun (path, c) => Text.quote path.text ++ ": " ++ classificationText c)

section Running

variable {m : Type → Type} [Monad m]

/-- The configuration in a file. -/
def readConfig (s : Shell m) (path : String) : m (Except RunError Config) := do
  match ← s.read ⟨path⟩ with
  | .error cause => return .error (.unreadableConfig path cause)
  | .ok text => return (Config.ofJson text).mapError (.badConfig path)

/-- The configuration of the command: in the file that is named, in the file of the usual name if
there is one, or else the default. -/
def loadConfig (s : Shell m) (o : Options) : m (Except RunError Config) := do
  match o.config? with
  | some path => readConfig s path
  | none =>
    if ← s.contains ⟨Config.fileName⟩ then readConfig s Config.fileName else return .ok {}

/-- The plugin of the command. -/
def loadPlugin (s : Shell m) (o : Options) : m (Except RunError Plugin) := do
  match ← loadConfig s o with
  | .error e => return .error e
  | .ok config =>
    return (Plugin.ofConfig { config with sourceMap := o.sourceMap || config.sourceMap }).mapError
      .failure

/-- The level of the console. -/
def consoleLevel (o : Options) : LogLevel := if o.verbose then .debug else .warn

/-! ### Listing -/

/-- Analyses some files, one after the other, and reports those that fail. -/
def analyzeEach (p : Plugin) (h : Host m) :
    List FsPath → m (List (FsPath × Except Failure Classification))
  | [] => return []
  | file :: files => do
    let result ← p.analyze h file
    match result with
    | .ok _ => pure ()
    | .error failure => h.error failure.message
    return (file, result) :: (← analyzeEach p h files)

/-- The values among some results. -/
def successes {α : Type} (results : List (FsPath × Except Failure α)) : List (FsPath × α) :=
  results.filterMap fun (path, result) =>
    match result with
    | .ok a => some (path, a)
    | .error _ => none

/-- Whether every result is a value. -/
def allSucceed {α : Type} (results : List (FsPath × Except Failure α)) : Bool :=
  results.all fun (_, result) => result.toBool

/-- Lists the type-only exports of some files. -/
def listExports (s : Shell m) (p : Plugin) (h : Host m) (files : List FsPath) : m Bool := do
  let results ← analyzeEach p h files
  s.print (listingText (successes results))
  return allSucceed results

/-! ### Loading -/

/-- Reports the files that fail. -/
def reportFailures (h : Host m) : List Loaded → m Unit
  | [] => return ()
  | (file, .error failure) :: rest => do
    h.error (file.text ++ ": " ++ failure.message)
    reportFailures h rest
  | (_, .ok _) :: rest => reportFailures h rest

/-- The lines that show some scripts. Each has its path before it if there are several results. -/
def scriptLines (results : List Loaded) : List String :=
  (successes results).flatMap fun (file, r) =>
    if results.length > 1 then ["// File: " ++ file.text, r.code] else [r.code]

/-- Writes lines to standard output. -/
def printAll (s : Shell m) : List String → m Unit
  | [] => return ()
  | line :: rest => do
    s.print line
    printAll s rest

/-- Tells of every script that was written. -/
def reportScripts (h : Host m) : List FsPath → m Unit
  | [] => return ()
  | path :: rest => do
    h.info ("Emitted: " ++ path.text)
    reportScripts h rest

/-- Writes the scripts below a directory, or shows them if there is none. -/
def deliver (s : Shell m) (h : Host m) (cwd : String) (outDir? : Option String)
    (results : List Loaded) : m (Except RunError Unit) := do
  match outDir? with
  | none =>
    printAll s (scriptLines results)
    return .ok ()
  | some outDir =>
    match ← s.emit cwd (below cwd outDir) results with
    | .error failure => return .error (.failure failure)
    | .ok paths =>
      reportScripts h paths
      return .ok ()

/-- Loads some files and delivers their scripts. -/
def loadModules (s : Shell m) (p : Plugin) (h : Host m) (cwd : String) (outDir? : Option String)
    (files : List FsPath) : m (Except RunError Bool) := do
  let results ← p.loadAll h files
  reportFailures h results
  match ← deliver s h cwd outDir? results with
  | .error e => return .error e
  | .ok () =>
    p.cleanup h
    return .ok (allSucceed results)

/-! ### The command -/

/-- Works on the files that the plugin handles. -/
def process (s : Shell m) (o : Options) (p : Plugin) (cwd : String) (files : List FsPath) :
    m (Except RunError Bool) := do
  let h := s.host (.console (consoleLevel o))
  if files.isEmpty then
    h.warn "No input modules matched"
    return .ok true
  else if o.list then return .ok (← listExports s p h files)
  else loadModules s p h cwd o.outDir? files

/-- Runs the command. -/
def run (s : Shell m) (o : Options) : m (Except RunError Bool) := do
  match ← loadPlugin s o with
  | .error e => return .error e
  | .ok p =>
    let cwd ← s.workingDir
    match ← expandInputs s.matchingFiles cwd o.inputs with
    | .error e => return .error (.input e)
    | .ok paths => process s o p cwd (paths.filter p.handles)

/-- The exit status when all went well. -/
def statusOk : UInt32 := 0

/-- The exit status when a module failed or the command ended early. -/
def statusFailed : UInt32 := 1

/-- The exit status when the arguments are refused. -/
def statusMisused : UInt32 := 2

/-- The command with its arguments. -/
def execute (s : Shell m) (arguments : List String) : m UInt32 := do
  match Request.ofArguments arguments with
  | .error e =>
    s.printError e.message
    return statusMisused
  | .ok .help =>
    s.print helpText
    return statusOk
  | .ok .version =>
    s.print versionText
    return statusOk
  | .ok (.run o) =>
    match ← run s o with
    | .ok true => return statusOk
    | .ok false => return statusFailed
    | .error e =>
      s.printError ("Error: " ++ e.message)
      return statusFailed

end Running

end PlaceholderExports.CommandLine
