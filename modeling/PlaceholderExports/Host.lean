import PlaceholderExports.Failure
import PlaceholderExports.Log

/-!
# Surroundings of a plugin

What loading and emitting modules asks of its surroundings: a store of files, a place for log
messages, and a clock. The operations are those of an arbitrary monad, so the same code runs on
disk, in memory, and on any store that may refuse.

* `FileStore`: reading and writing files.
* `FileTree`: looking around among files and directories.
* `Host`: a store of files with a log and a clock.
* `Shell`: the surroundings of a command, with a working directory and the two standard streams.
-/

namespace PlaceholderExports

/-- The operations of a store of files. -/
structure FileStore (m : Type → Type) where
  /-- Whether there is something under a path. -/
  contains : FsPath → m Bool
  /-- The text of a file. -/
  read : FsPath → m (Except StoreError String)
  /-- Stores a text under a path. -/
  write : FsPath → String → m (Except StoreError Unit)
  /-- Makes sure that there is a directory under a path. -/
  ensureDir : FsPath → m (Except StoreError Unit)

/-- What there is under a path. -/
structure FileTree (m : Type → Type) where
  /-- Whether there is something under a path. -/
  contains : FsPath → m Bool
  /-- Whether there is a file under a path. -/
  isFile : FsPath → m Bool
  /-- Whether there is a directory under a path. -/
  isDir : FsPath → m Bool
  /-- The names of the entries of a directory; there are none under anything else. -/
  names : FsPath → m (List String)

/-- A store of files with a log and a clock. -/
structure Host (m : Type → Type) extends FileStore m where
  /-- Sends a message. -/
  log : LogEntry → m Unit
  /-- The nanoseconds that have passed since some moment. -/
  clock : m Nat

namespace Host

variable {m : Type → Type}

/-- Sends a message of the lowest level. -/
def debug (h : Host m) (text : String) : m Unit := h.log ⟨.debug, text⟩

/-- Sends an informative message. -/
def info (h : Host m) (text : String) : m Unit := h.log ⟨.info, text⟩

/-- Sends a warning. -/
def warn (h : Host m) (text : String) : m Unit := h.log ⟨.warn, text⟩

/-- Sends a message about a failure. -/
def error (h : Host m) (text : String) : m Unit := h.log ⟨.error, text⟩

end Host

/-- The surroundings of a command. -/
structure Shell (m : Type → Type) extends FileStore m, FileTree m where
  /-- Writes a line to a standard stream. -/
  printLine : StandardStream → String → m Unit
  /-- The nanoseconds that have passed since some moment. -/
  clock : m Nat
  /-- The absolute path of the working directory. -/
  workingDir : m String

namespace Shell

variable {m : Type → Type}

/-- Writes a line to standard output. -/
def print (s : Shell m) (line : String) : m Unit := s.printLine .out line

/-- Writes a line to standard error. -/
def printError (s : Shell m) (line : String) : m Unit := s.printLine .err line

/-- A shell as the surroundings of a plugin, whose messages go where a logger shows them. -/
def host [Monad m] (s : Shell m) (logger : Logger) : Host m where
  toFileStore := s.toFileStore
  log entry :=
    match logger.line? entry with
    | some (stream, line) => s.printLine stream line
    | none => return ()
  clock := s.clock

end Shell

end PlaceholderExports
