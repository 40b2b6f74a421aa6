import Mathlib
import PlaceholderExports.Plugin
import PlaceholderExports.Store.Terminal

/-!
# Loading as a function

What a plugin makes of a text depends on nothing but the path and the text. `Plugin.result` is that
function; `loadContents_eq` splits the loading of a text, in any surroundings, into the message that
is sent on the way and this result. On a terminal the message goes to a stream, and the disk stays
as it is.
-/

namespace PlaceholderExports.Plugin

/-- What a plugin makes of the text of a module. -/
def result (p : Plugin) (path : FsPath) (contents : String) : Except Failure LoadResult :=
  match p.language.prepare (.ofPath path) p.config.placeholderName path contents with
  | .error failure => .error failure
  | .ok prepared =>
    match p.language.transform (.ofPath path) path p.config.sourceMap prepared.source with
    | .ok script =>
      .ok { code := script.code, map? := script.map?,
            typeOnlyExports := prepared.classification.names }
    | .error messages => .error (.transform path messages)

/-- What a plugin answers when the file of a module was read like this. -/
def answer (p : Plugin) (path : FsPath) : Except StoreError String → Except Failure LoadResult
  | .ok contents => p.result path contents
  | .error e => .error (.store path e)

section Message

variable {m : Type → Type} [Monad m]

/-- The message that is sent while a text is loaded, if any. -/
def note (p : Plugin) (h : Host m) (path : FsPath) (contents : String) : m Unit :=
  match p.language.prepare (.ofPath path) p.config.placeholderName path contents with
  | .error _ => pure ()
  | .ok prepared =>
    if prepared.classification.names.isEmpty then pure ()
    else h.debug (placeholderNote path prepared.classification.names)

/-- Loading a text sends its message and gives its result. -/
theorem loadContents_eq [LawfulMonad m] (p : Plugin) (h : Host m) (path : FsPath)
    (contents : String) :
    p.loadContents h path contents = do
      p.note h path contents
      return p.result path contents := by
  unfold loadContents note result
  cases p.language.prepare (.ofPath path) p.config.placeholderName path contents with
  | error failure => simp
  | ok prepared =>
    dsimp only
    -- the message goes out before the text is transformed, so it is the same for both outcomes
    cases p.language.transform (.ofPath path) path p.config.sourceMap prepared.source with
    | error messages => cases prepared.classification.names.isEmpty <;> simp
    | ok script => cases prepared.classification.names.isEmpty <;> simp

end Message

/-! ### On a terminal -/

variable (p : Plugin) (logger : Logger) (t : Terminal)

/-- A message on a terminal leaves the disk as it is. -/
lemma disk_debug (text : String) :
    (((Terminal.shell.host logger).debug text).run t).2.disk = t.disk := by
  unfold Host.debug Shell.host
  dsimp only
  cases logger.line? ⟨.debug, text⟩ with
  | none => rfl
  | some shown => rfl

/-- The message of a text leaves the disk as it is. -/
lemma disk_note (path : FsPath) (contents : String) :
    ((p.note (Terminal.shell.host logger) path contents).run t).2.disk = t.disk := by
  unfold note
  cases p.language.prepare (.ofPath path) p.config.placeholderName path contents with
  | error failure => rfl
  | ok prepared =>
    dsimp only
    by_cases empty : prepared.classification.names.isEmpty
    · rw [if_pos empty]
      rfl
    · rw [if_neg empty]
      exact disk_debug logger t _

/-- Reading a module reads its file. -/
lemma read_run (path : FsPath) :
    (p.read (Terminal.shell.host logger) path).run t =
      ((t.disk.read path).mapError (.store path), t) :=
  rfl

/-- Loading a text gives its result. -/
lemma loadContents_run (path : FsPath) (contents : String) :
    ((p.loadContents (Terminal.shell.host logger) path contents).run t).1 =
      p.result path contents := by
  rw [loadContents_eq]
  rfl

/-- Loading a module answers what follows from the reading of its file. -/
lemma load_run (path : FsPath) :
    ((p.load (Terminal.shell.host logger) path).run t).1 = p.answer path (t.disk.read path) := by
  unfold load
  rw [StateT.run_bind, read_run]
  cases t.disk.read path with
  | error e => rfl
  | ok contents => exact loadContents_run p logger t path contents

/-- Loading a text leaves the disk as it is. -/
lemma disk_loadContents (path : FsPath) (contents : String) :
    ((p.loadContents (Terminal.shell.host logger) path contents).run t).2.disk = t.disk := by
  rw [loadContents_eq]
  exact disk_note p logger t path contents

end PlaceholderExports.Plugin
