import PlaceholderExports.FsPath

/-!
# Paths by components

A path text is read as a sequence of components: the root, a leading `.`, `..`, and ordinary names.
Empty segments and later `.` segments separate components without being any, so `a//b/./c` has the
components `a`, `b` and `c`. The segments of a text are what stands between its slashes. Their text
is kept, and what is cut off a path is cut at a segment.

* `stripPrefix?`: the rest of a path below another one, by components.
* `append`: a path below another one; an absolute path stands alone.
* `withExtension`: replaces what follows the last dot of the last name.
* `outputPath`: where the script of a module goes.
-/

namespace PlaceholderExports.FsPath

/-- One component of a path. -/
inductive Component where
  | root
  | here
  | parent
  | name (text : List Char)
deriving DecidableEq, Repr

/-- Whether a segment stands for a component: it is not empty and not `.`. -/
def isSolid (segment : List Char) : Bool := segment != [] && segment != ['.']

/-- A path text in parts: a root or a leading `.`, and the segments after it. -/
structure Layout where
  rooted : Bool
  dotted : Bool
  body : List (List Char)
deriving DecidableEq, Repr

/-- The parts of a path text. -/
def layout (text : List Char) : Layout :=
  match List.splitOn '/' text with
  | [] :: next :: more => ⟨true, false, next :: more⟩
  | ['.'] :: body => ⟨false, true, body⟩
  | body => ⟨false, false, body⟩

namespace Layout

/-- The path text of the parts. -/
def text (l : Layout) : List Char :=
  if l.rooted then '/' :: ['/'].intercalate l.body
  else if l.dotted then ['/'].intercalate (['.'] :: l.body)
  else ['/'].intercalate l.body

/-- The component of a solid segment. -/
def solidComponent (segment : List Char) : Component :=
  if segment = ['.', '.'] then .parent else .name segment

/-- The components of a path. -/
def components (l : Layout) : List Component :=
  (if l.rooted then [Component.root] else []) ++ (if l.dotted then [Component.here] else []) ++
    (l.body.filter isSolid).map solidComponent

/-- Removes the segments after the last solid one. -/
def trimEnd (body : List (List Char)) : List (List Char) :=
  (body.reverse.dropWhile fun s => !isSolid s).reverse

/-- Removes the segments before the first solid one. -/
def trimStart (body : List (List Char)) : List (List Char) := body.dropWhile fun s => !isSolid s

/-- What follows the first few solid segments. -/
def dropSolid : Nat → List (List Char) → List (List Char)
  | 0, body => body
  | _ + 1, [] => []
  | n + 1, s :: body => if isSolid s then dropSolid n body else dropSolid (n + 1) body

end Layout

/-- The components of a path text. -/
def components (text : List Char) : List Component := (layout text).components

/-- The text of a path below another one, if the components of that one begin it. Below a path
without components the text stays as it is, up to separators at its end. -/
def stripPrefix? (text base : List Char) : Option (List Char) :=
  let l := layout text
  let b := layout base
  if b.components.isPrefixOf l.components then
    if b.components.isEmpty then some { l with body := Layout.trimEnd l.body }.text
    else
      let solid := (b.body.filter isSolid).length
      some (['/'].intercalate (Layout.trimEnd (Layout.trimStart (Layout.dropSolid solid l.body))))
  else none

/-- The last component of a path, if it is an ordinary name. -/
def fileName? (text : List Char) : Option (List Char) :=
  match (components text).getLast? with
  | some (.name n) => some n
  | _ => none

/-- A path below another one. An absolute path replaces it; an empty one leaves a slash at its
end. -/
def append (base path : List Char) : List Char :=
  if path.head? = some '/' then path
  else if base.isEmpty || base.getLast? = some '/' then base ++ path
  else base ++ '/' :: path

/-- A file name up to its last dot, or all of it if that dot comes first or there is none. -/
def stem (name : List Char) : List Char :=
  match name.reverse.dropWhile (· ≠ '.') with
  | [] | [_] => name
  | _ :: before => before.reverse

/-- The path whose last name has another extension; a path that does not end in an ordinary name
stays as it is. -/
def withExtension (text ext : List Char) : List Char :=
  match fileName? text with
  | none => text
  | some name =>
    let l := layout text
    let body := (Layout.trimEnd l.body).dropLast ++ [stem name]
    { l with body := body }.text ++ '.' :: ext

/-- Where the script of a module goes below an output directory: at the path of the module below
the root, or under its file name if it lies elsewhere. -/
def outputPath (root outDir file : String) : String :=
  let file := file.toList
  let relative := (stripPrefix? file root.toList).getD ((fileName? file).getD file)
  String.ofList (withExtension (append outDir.toList relative) ['j', 's'])

end PlaceholderExports.FsPath
