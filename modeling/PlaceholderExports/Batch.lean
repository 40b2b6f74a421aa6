import PlaceholderExports.FsPath.Components
import PlaceholderExports.Plugin
import PlaceholderExports.Text.Shortest

/-!
# Loading and emitting many modules

A batch loads some files and lists the results by path. Emission writes the script of every module
that was loaded, with its source map before it, so that a script never names a map that is not
there.

* `Plugin.loadAll`: the results of some files, sorted by path.
* `emissionCalls`: the calls that an emission makes.
* `FileStore.emit`: an emission, which stops at the first call that is refused.
-/

namespace PlaceholderExports

/-- The result of loading one file. -/
abbrev Loaded := FsPath × Except Failure LoadResult

/-! ### Durations -/

/-- A number of thousandths of thousandths in decimal digits, without zeros at the end. -/
def fractionText (digits : List Char) : List Char :=
  match (digits.reverse.dropWhile (· = '0')).reverse with
  | [] => []
  | ds => '.' :: ds

/-- A number with some decimal digits after the point. -/
def scaledText (n places : Nat) : String :=
  let fraction := Nat.toDigits 10 (n % Text.tenTo places)
  String.ofList (Nat.toDigits 10 (n / Text.tenTo places) ++
    fractionText (List.replicate (places - fraction.length) '0' ++ fraction))

/-- A time in the largest unit of which there is at least one. -/
def durationText (nanoseconds : Nat) : String :=
  if Text.tenTo 9 ≤ nanoseconds then scaledText nanoseconds 9 ++ "s"
  else if Text.tenTo 6 ≤ nanoseconds then scaledText nanoseconds 6 ++ "ms"
  else if Text.tenTo 3 ≤ nanoseconds then scaledText nanoseconds 3 ++ "µs"
  else toString nanoseconds ++ "ns"

/-! ### Loading -/

/-- Results in ascending order of their paths; those of one path stay in order. -/
def sortLoaded (results : List Loaded) : List Loaded :=
  results.mergeSort fun a b => decide (a.1 ≤ b.1)

section Loading

variable {m : Type → Type} [Monad m]

/-- The results of some files, in the order of the files. -/
def Plugin.loadEach (p : Plugin) (h : Host m) : List FsPath → m (List Loaded)
  | [] => return []
  | file :: files => do
    let result ← p.load h file
    return (file, result) :: (← p.loadEach h files)

/-- Loads some files. The results are sorted by path. -/
def Plugin.loadAll (p : Plugin) (h : Host m) (files : List FsPath) : m (List Loaded) := do
  let start ← h.clock
  h.info ("Loading " ++ toString files.length ++ " modules in parallel...")
  let results ← p.loadEach h files
  h.info ("Loading finished in " ++ durationText ((← h.clock) - start))
  return sortLoaded results

end Loading

/-! ### Emitting -/

/-- A call to the store of files. -/
inductive StoreCall where
  | ensureDir (path : FsPath)
  | write (path : FsPath) (text : String)
deriving DecidableEq, Repr

/-- The path that a call is about. -/
def StoreCall.path : StoreCall → FsPath
  | ensureDir path | write path _ => path

/-- Where the script of a file goes. -/
def scriptPath (root outDir : String) (file : FsPath) : FsPath :=
  .normalize (FsPath.outputPath root outDir file.text)

/-- Where the source map of a script goes. -/
def mapPath (script : FsPath) : FsPath := ⟨script.text ++ ".map"⟩

/-- The line that names the source map of a script. -/
def mapLine (script : FsPath) : String :=
  "\n//# sourceMappingURL=" ++ FsPath.basename (mapPath script).text ++ "\n"

/-- The calls that write one script: its directory, its source map if it has one, and its code. -/
def LoadResult.calls (script : FsPath) (r : LoadResult) : List StoreCall :=
  .ensureDir ⟨FsPath.dirname script.text⟩ ::
    match r.map? with
    | some map =>
      [.write (mapPath script) map.text, .write script (r.code ++ mapLine script)]
    | none => [.write script r.code]

/-- The scripts of the files that were loaded, with where they go. -/
def emitted (root outDir : String) (results : List Loaded) : List (FsPath × LoadResult) :=
  results.filterMap fun (file, result) =>
    match result with
    | .ok r => some (scriptPath root outDir file, r)
    | .error _ => none

/-- The calls that write every script. -/
def emissionCalls (root outDir : String) (results : List Loaded) : List StoreCall :=
  (emitted root outDir results).flatMap fun (script, r) => r.calls script

section Emitting

variable {m : Type → Type} [Monad m]

/-- Makes a call. -/
def FileStore.call (h : FileStore m) : StoreCall → m (Except StoreError Unit)
  | .ensureDir path => h.ensureDir path
  | .write path text => h.write path text

/-- Makes calls up to the first one that is refused. -/
def FileStore.perform (h : FileStore m) : List StoreCall → m (Except Failure Unit)
  | [] => return .ok ()
  | call :: calls => do
    match ← h.call call with
    | .ok () => h.perform calls
    | .error cause => return .error (.store call.path cause)

/-- Writes every script and gives their paths. -/
def FileStore.emit (h : FileStore m) (root outDir : String) (results : List Loaded) :
    m (Except Failure (List FsPath)) := do
  match ← h.perform (emissionCalls root outDir results) with
  | .ok () => return .ok ((emitted root outDir results).map (·.1))
  | .error failure => return .error failure

end Emitting

end PlaceholderExports
