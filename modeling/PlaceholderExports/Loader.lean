import PlaceholderExports.Cache
import PlaceholderExports.Plugin

/-!
# Loaders

A loader is a plugin with a cache: a file is read every time, and its result is computed once for
the contents that were read. Failures are not remembered. Beside it stand two functions that work on
a text alone, with the default settings.

* `Loader.load`, `Loader.cleanup`: the operations; each gives the cache that it leaves.
* `Frontend.typeOnlyExports`, `Frontend.withPlaceholder`: the functions without a loader.
-/

namespace PlaceholderExports

/-- Results by path and contents. -/
abbrev LoadCache := Cache UInt64 LoadResult

/-- A plugin whose results are remembered, and where its messages go. -/
structure Loader where
  plugin : Plugin
  logger : Logger
  /-- The key under which a result is remembered for the contents of a file. -/
  digest : String → UInt64 := fingerprint

namespace Loader

/-- The level of a console. -/
def level (verbose : Bool) : LogLevel := if verbose then .debug else .warn

/-- The loader of a configuration text; without one the settings are the default. -/
def ofJson (config? : Option String) (verbose : Bool) : Except Failure Loader := do
  let config ←
    match config? with
    | some text => (Config.ofJson text).mapError .config
    | none => .ok {}
  return { plugin := ← Plugin.ofConfig config, logger := .console (level verbose) }

variable {m : Type → Type} [Monad m]

/-- The result for contents that were read, from the cache if it is there. -/
def loadContents (l : Loader) (h : Host m) (cache : LoadCache) (path : FsPath) (contents : String) :
    m (LoadCache × Except Failure LoadResult) := do
  match cache.get? path (l.digest contents) with
  | some result => return (cache, .ok result)
  | none =>
    match ← l.plugin.loadContents h path contents with
    | .ok result => return (cache.insert path (l.digest contents) result, .ok result)
    | .error failure => return (cache, .error failure)

/-- Loads a file. -/
def load (l : Loader) (h : Host m) (cache : LoadCache) (path : String) :
    m (LoadCache × Except Failure LoadResult) := do
  match ← l.plugin.read h (.normalize path) with
  | .ok contents => l.loadContents h cache (.normalize path) contents
  | .error failure => return (cache, .error failure)

/-- Forgets every result and ends the work of the plugin. -/
def cleanup (l : Loader) (h : Host m) (cache : LoadCache) : m LoadCache := do
  l.plugin.cleanup h
  return cache.clear

end Loader

/-! ### Functions on texts -/

/-- The dialect of a path as it is written: only slashes separate its segments. -/
def ScriptVariant.ofText (path : String) : ScriptVariant := ofExtension (FsPath.extname path)

namespace Frontend

/-- The type-only exports of a text. -/
def typeOnlyExports (language : Frontend) (path source : String) : Except Failure (List String) :=
  (language.analyze (.ofText path) (.normalize path) source).map (·.names)

/-- A text with its placeholder exports. -/
def withPlaceholder (language : Frontend) (path source : String) : Except Failure String :=
  (language.prepare (.ofText path) Placeholder.defaultBase (.normalize path) source).map (·.source)

end Frontend

end PlaceholderExports
