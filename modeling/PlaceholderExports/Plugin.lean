import PlaceholderExports.Host
import PlaceholderExports.Prepared

/-!
# The plugin

A plugin loads the modules of a configuration: it reads a text, classifies it, appends the
placeholder exports, and turns the result into a script. The names that get a placeholder are logged
before the text is transformed.

* `Plugin.ofConfig`: a plugin with a valid configuration.
* `Plugin.analyze`, `Plugin.load`, `Plugin.loadContents`: the entry points.
-/

namespace PlaceholderExports

/-- A loaded module: its script and the names that got a placeholder. -/
structure LoadResult where
  code : String
  map? : Option SourceMap
  typeOnlyExports : List String
deriving DecidableEq, Repr

/-- A valid configuration with the language of its modules. -/
structure Plugin where
  config : Config
  language : Frontend
  valid : config.fault? = none

namespace Plugin

/-- The name of the plugin. -/
def name : String := "@snowpack/plugin-ts-exports"

/-- The version of the plugin. -/
def version : String := "0.1.0"

/-- The extensions of the files that the plugin makes. -/
def outputExtensions : List String := [".js"]

/-- The plugin of a configuration, if that is valid. -/
def ofConfig (config : Config) (language : Frontend := .typeScript) : Except Failure Plugin :=
  match h : config.fault? with
  | none => .ok { config, language, valid := h }
  | some fault => .error (.config (.invalid fault))

/-- Whether a path has one of the extensions that are loaded. -/
def handles (p : Plugin) (path : FsPath) : Bool :=
  p.config.input.contains (FsPath.extname path.text)

variable {m : Type → Type} [Monad m]

/-- The text of a module. -/
def read (_ : Plugin) (h : Host m) (path : FsPath) : m (Except Failure String) := do
  return (← h.read path).mapError (.store path)

/-- The classification of a module. -/
def analyze (p : Plugin) (h : Host m) (path : FsPath) : m (Except Failure Classification) := do
  match ← p.read h path with
  | .ok contents => return p.language.analyze (.ofPath path) path contents
  | .error failure => return .error failure

/-- The message that names the placeholder exports of a module. -/
def placeholderNote (path : FsPath) (names : List String) : String :=
  path.text ++ ": placeholder exports for " ++ ", ".intercalate names

/-- Loads a module from its text. -/
def loadContents (p : Plugin) (h : Host m) (path : FsPath) (contents : String) :
    m (Except Failure LoadResult) := do
  match p.language.prepare (.ofPath path) p.config.placeholderName path contents with
  | .error failure => return .error failure
  | .ok prepared =>
    let names := prepared.classification.names
    if !names.isEmpty then h.debug (placeholderNote path names)
    match p.language.transform (.ofPath path) path p.config.sourceMap prepared.source with
    | .ok script =>
      return .ok { code := script.code, map? := script.map?, typeOnlyExports := names }
    | .error messages => return .error (.transform path messages)

/-- Loads a module. -/
def load (p : Plugin) (h : Host m) (path : FsPath) : m (Except Failure LoadResult) := do
  match ← p.read h path with
  | .ok contents => p.loadContents h path contents
  | .error failure => return .error failure

/-- Ends the work of a plugin. -/
def cleanup (_ : Plugin) (h : Host m) : m Unit := h.debug (name ++ ": cleanup")

end Plugin

end PlaceholderExports
