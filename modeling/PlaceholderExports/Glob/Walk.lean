import PlaceholderExports.FsPath.Components
import PlaceholderExports.Glob.Pattern
import PlaceholderExports.Host

/-!
# Walking a file tree by a pattern

A pattern with an absolute path is followed segment by segment from the root. A segment without
wildcards is looked up by its name; one with wildcards is compared with every entry of a directory,
where dot files count like others, and also with `.` and `..` if it starts with a dot; `**` leads
into every directory below. A pattern that ends in a slash matches directories only.

* `Glob.ofText`: the segments of a pattern.
* `FileTree.matching`: the paths that match.
* `FileTree.matchingFiles`: the files among them.
-/

namespace PlaceholderExports

namespace Glob

/-- A segment of a pattern. -/
inductive Segment where
  /-- The entry of a name. -/
  | name (text : List Char)
  /-- The entries whose names match. -/
  | wild (parts : List Part)
  /-- Directories of any depth. -/
  | deep
deriving DecidableEq, Repr

/-- The character that a part stands for, if it stands for one only. -/
def Part.char? : Part → Option Char
  | .char c => some c
  | _ => none

/-- The segment of some parts. -/
def Segment.ofParts (parts : List Part) : Segment :=
  if parts = [.anyDirectories] then deep
  else
    match parts.mapM Part.char? with
    | some text => name text
    | none => wild parts

/-- Whether the name of an entry matches a segment. -/
def Segment.matches : Segment → List Char → Bool
  | name text, entry => text = entry
  | wild parts, entry => matchesName parts entry
  | deep, _ => false

end Glob

/-- A pattern for absolute paths. -/
structure Glob where
  segments : List Glob.Segment
  /-- Only directories match. -/
  directoriesOnly : Bool
deriving DecidableEq, Repr

namespace Glob

/-- The texts of the segments of a pattern. A slash at the end opens no segment. -/
def segmentTexts (text : List Char) : List (List Char) :=
  let segments := List.splitOn '/' (if text.head? = some '/' then text.tail else text)
  if segments.getLast? = some [] then segments.dropLast else segments

/-- The pattern of a text. The text is read as a whole before its segments are. -/
def ofText (text : String) : Except PatternError Glob := do
  let _ ← readPattern text.toList
  let segments ← (segmentTexts text.toList).mapM fun s => Segment.ofParts <$> readPattern s
  return { segments, directoriesOnly := text.toList.getLast? = some '/' }

/-- The entries that stand for a directory itself and for the one above it. -/
def dotEntries : List String := [".", ".."]

end Glob

/-- The entry of a name in a directory. -/
def FsPath.child (dir : FsPath) (name : String) : FsPath :=
  ⟨String.ofList (FsPath.append dir.text.toList name.toList)⟩

namespace FileTree

open Glob (Segment)

variable {m : Type → Type} [Monad m]

/-- The paths below a path that match some segments. Every step makes the path longer, so a number
above the longest path bounds them. -/
def walk (t : FileTree m) : Nat → List Segment → FsPath → m (List FsPath)
  | _, [], path => return [path]
  | 0, _, _ => return []
  | fuel + 1, .name text :: rest, path => do
    let name := String.ofList text
    let next := path.child name
    let isThere ← if name ∈ Glob.dotEntries then t.isDir path else t.contains next
    if isThere then t.walk fuel rest next else return []
  | fuel + 1, .wild parts :: rest, path => do
    let dots ← if parts.head? = some (.char '.') then t.isDir path else pure false
    let entries := (← t.names path) ++ if dots then Glob.dotEntries else []
    (entries.filter fun e => (Segment.wild parts).matches e.toList).flatMapM fun e =>
      t.walk fuel rest (path.child e)
  | fuel + 1, .deep :: rest, path => do
    let rest := rest.dropWhile (· = .deep)
    (← t.names path).flatMapM fun e => do
      let next := path.child e
      let isDir ← t.isDir next
      let below ← if isDir then t.walk fuel (.deep :: rest) next else pure []
      let here ←
        match rest with
        | [] => pure (if isDir then [next] else [])
        | segment :: rest => if segment.matches e.toList then t.walk fuel rest next else pure []
      return below ++ here

/-- The paths that match a pattern. -/
def matching (t : FileTree m) (glob : Glob) : m (List FsPath) := do
  let paths ← t.walk (FsPath.maxBytes + glob.segments.length) glob.segments ⟨"/"⟩
  if glob.directoriesOnly then paths.filterM t.isDir else return paths

/-- The files that match a pattern text, in slash form. -/
def matchingFiles (t : FileTree m) (text : String) :
    m (Except Glob.PatternError (List FsPath)) := do
  match Glob.ofText text with
  | .ok glob =>
    let files ← (← t.matching glob).filterM t.isFile
    return .ok (files.map fun path => .normalize path.text)
  | .error e => return .error e

end FileTree

end PlaceholderExports
