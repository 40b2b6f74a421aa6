/-!
# Paths of files

A path is a text whose segments are separated by slashes. This module splits a path into directory,
base name and extension, joins segments, and orders paths by their bytes. Nothing here looks at a
file system.

* `dirname`, `basename`: what stands before and after the last slash.
* `extname`: the part of the base name from its last dot, unless that dot is its first character.
* `join`: a base path and segments, with one slash before every segment.
-/

namespace PlaceholderExports

/-- A path in slash form. -/
structure FsPath where
  text : String
deriving DecidableEq, Repr, Inhabited

namespace FsPath

instance : ToString FsPath := ⟨FsPath.text⟩

/-- The path of a text in which backslashes separate segments too. -/
def normalize (text : String) : FsPath :=
  ⟨text.map fun c => if c = '\\' then '/' else c⟩

/-- The bytes of the longest path that a system follows. -/
def maxBytes : Nat := 4095

/-- The order of paths by the bytes of their texts. -/
instance : LE FsPath := ⟨fun p q => p.text ≤ q.text⟩

instance (p q : FsPath) : Decidable (p ≤ q) :=
  inferInstanceAs (Decidable (p.text ≤ q.text))

/-- Paths in ascending order; equal ones stay in the order in which they are given. -/
def sort (paths : List FsPath) : List FsPath := paths.mergeSort fun p q => decide (p ≤ q)

/-- The characters after the last slash. -/
def baseChars (text : List Char) : List Char :=
  (text.reverse.takeWhile (· ≠ '/')).reverse

/-- The part of a path after its last slash. -/
def basename (text : String) : String := String.ofList (baseChars text.toList)

/-- The part of a path before its last slash: `/` if that slash comes first, `.` if there is
none. -/
def dirname (text : String) : String :=
  match text.toList.reverse.dropWhile (· ≠ '/') with
  | [] => "."
  | ['/'] => "/"
  | _ :: before => String.ofList before.reverse

/-- The characters from the last dot on, if there is one after the first character. -/
def extChars (base : List Char) : List Char :=
  match base.reverse.dropWhile (· ≠ '.') with
  | [] | [_] => []
  | _ => '.' :: (base.reverse.takeWhile (· ≠ '.')).reverse

/-- The extension of a path with its dot, or nothing. -/
def extname (text : String) : String := String.ofList (extChars (baseChars text.toList))

/-- Removes `./` from the front as often as it stands there. -/
def dropDotSlashes : List Char → List Char
  | '.' :: '/' :: rest => dropDotSlashes rest
  | cs => cs

/-- Removes the slashes at the end. -/
def dropTrailingSlashes (cs : List Char) : List Char :=
  (cs.reverse.dropWhile (· = '/')).reverse

/-- A segment without `./` in front and then without slashes on either side. -/
def trimSegment (segment : List Char) : List Char :=
  dropTrailingSlashes ((dropDotSlashes segment).dropWhile (· = '/'))

/-- A base path without slashes at its end, followed by every trimmed segment after a slash. -/
def join (base : String) (segments : List String) : String :=
  String.ofList (segments.foldl (fun path segment => path ++ '/' :: trimSegment segment.toList)
    (dropTrailingSlashes base.toList))

end FsPath

end PlaceholderExports
