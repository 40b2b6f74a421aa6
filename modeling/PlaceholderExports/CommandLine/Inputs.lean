import PlaceholderExports.FsPath.Components
import PlaceholderExports.Glob.Pattern

/-!
# Inputs of the command

An argument with a wildcard is a pattern and stands for the files that match it; any other argument
stands for the path that it names, whether or not there is a file. All of them are taken below the
working directory and listed once each in ascending order.

* `expandInputs`: the paths of some arguments.
-/

namespace PlaceholderExports.CommandLine

/-- An argument that is no pattern. -/
structure InputError where
  argument : String
  cause : Glob.PatternError
deriving DecidableEq, Repr

/-- The wording of an error. -/
def InputError.message (e : InputError) : String :=
  "invalid glob pattern " ++ e.argument ++ ": " ++ e.cause.message

/-- Whether an argument is a pattern. -/
def isPattern (argument : String) : Bool :=
  argument.toList.any fun c => c = '*' || c = '?' || c = '['

/-- A path below a working directory, as it is written. -/
def below (cwd argument : String) : String :=
  String.ofList (FsPath.append cwd.toList argument.toList)

/-- Keeps one of several equal neighbours. -/
def dropRepeats : List FsPath → List FsPath
  | p :: q :: rest => if p = q then dropRepeats (q :: rest) else p :: dropRepeats (q :: rest)
  | paths => paths

section Expansion

variable {m : Type → Type} [Monad m]

/-- The paths of one argument. The function gives the files that match a pattern. -/
def argumentPaths (matchingFiles : String → m (Except Glob.PatternError (List FsPath)))
    (cwd argument : String) : m (Except InputError (List FsPath)) := do
  if isPattern argument then
    return (← matchingFiles (below cwd argument)).mapError fun cause => { argument, cause }
  else return .ok [.normalize (below cwd argument)]

/-- The paths of some arguments, one argument after the other. -/
def argumentsPaths (matchingFiles : String → m (Except Glob.PatternError (List FsPath)))
    (cwd : String) : List String → m (Except InputError (List FsPath))
  | [] => return .ok []
  | argument :: rest => do
    match ← argumentPaths matchingFiles cwd argument with
    | .error e => return .error e
    | .ok paths => return (← argumentsPaths matchingFiles cwd rest).map (paths ++ ·)

/-- The paths of some arguments, in ascending order and each once. -/
def expandInputs (matchingFiles : String → m (Except Glob.PatternError (List FsPath)))
    (cwd : String) (arguments : List String) : m (Except InputError (List FsPath)) := do
  return (← argumentsPaths matchingFiles cwd arguments).map fun paths =>
    dropRepeats (FsPath.sort paths)

end Expansion

end PlaceholderExports.CommandLine
