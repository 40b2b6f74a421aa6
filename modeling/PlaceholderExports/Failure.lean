import PlaceholderExports.Config.Json
import PlaceholderExports.FsPath
import PlaceholderExports.Text.Utf8

/-!
# Failures

What can go wrong when a module is loaded: its file cannot be read, its text is no module, it cannot
be transformed, or the configuration is not valid. Each failure names its cause, and the wording is
in one function.

* `StoreError.message`, `Failure.message`: the wordings.
* `Failure.path?`: the module that a failure belongs to.
-/

namespace PlaceholderExports

/-- Why a store of files refuses an operation. -/
inductive StoreError where
  /-- An in-memory store has no file under a path. -/
  | missing (path : FsPath)
  /-- The contents of a file in memory are no text. -/
  | undecodable (cause : Text.Utf8Error)
  /-- The contents of a file on disk are no text. -/
  | notText
  | noSuchFile
  | alreadyExists
  | notDirectory
  | isDirectory
  | invalidInput
  | nameTooLong
  /-- A cause known only by its wording. -/
  | other (text : String)
deriving DecidableEq, Repr

/-- The classes of refusal that callers tell apart. -/
inductive StoreErrorKind where
  | notFound
  | alreadyExists
  | notDirectory
  | isDirectory
  | invalidData
  | invalidInput
  | invalidName
  | other
deriving DecidableEq, Repr

namespace StoreError

/-- The class of a refusal. -/
def kind : StoreError → StoreErrorKind
  | missing _ | noSuchFile => .notFound
  | undecodable _ | notText => .invalidData
  | alreadyExists => .alreadyExists
  | notDirectory => .notDirectory
  | isDirectory => .isDirectory
  | invalidInput => .invalidInput
  | nameTooLong => .invalidName
  | other _ => .other

/-- The wording of a refusal. -/
def message : StoreError → String
  | missing path => "File " ++ path.text ++ " not found"
  | undecodable cause => cause.message
  | notText => "stream did not contain valid UTF-8"
  | noSuchFile => "No such file or directory (os error 2)"
  | alreadyExists => "File exists (os error 17)"
  | notDirectory => "Not a directory (os error 20)"
  | isDirectory => "Is a directory (os error 21)"
  | invalidInput => "file name contained an unexpected NUL byte"
  | nameTooLong => "File name too long (os error 36)"
  | other text => text

end StoreError

/-- Why a step of the pipeline fails. -/
inductive Failure where
  /-- The file of a module cannot be read, or an output cannot be written. -/
  | store (path : FsPath) (cause : StoreError)
  /-- The text of a module does not parse. -/
  | parse (path : FsPath) (messages : List String)
  /-- A module cannot be turned into a script. -/
  | transform (path : FsPath) (messages : List String)
  /-- The configuration is not valid. -/
  | config (cause : ConfigError)
deriving DecidableEq, Repr

namespace Failure

/-- The module that a failure belongs to, if any. -/
def path? : Failure → Option FsPath
  | store path _ | parse path _ | transform path _ => some path
  | config _ => none

/-- The wording of a failure. Diagnostics stand on lines of their own. -/
def message : Failure → String
  | store path cause => "failed to read " ++ path.text ++ ": " ++ cause.message
  | parse path messages =>
    "failed to parse " ++ path.text ++ ":\n" ++ "\n".intercalate messages
  | transform path messages =>
    "failed to transform " ++ path.text ++ ":\n" ++ "\n".intercalate messages
  | config cause => "invalid configuration: " ++ cause.message

end Failure

end PlaceholderExports
