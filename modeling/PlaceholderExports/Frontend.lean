import PlaceholderExports.FsPath
import PlaceholderExports.Script.Linking
import PlaceholderExports.Syntax.Reading
import PlaceholderExports.Text.Quoted

/-!
# Languages

What loading a module needs to know of its language: how a text is reduced to statements, and how it
is turned into a script. Everything else is the same for any such pair of functions.

A script may come with a source map, which is written as a JSON object of version 3. It names its
sources and holds their texts; the list of positions is left empty.

* `SourceMap.text`: the text of a source map.
* `Frontend.typeScript`: module texts are read as TypeScript, and their scripts are what is left of
  them without types.
-/

namespace PlaceholderExports

/-- The two dialects of module texts. -/
inductive ScriptVariant where
  | plain
  /-- Elements of markup are expressions, and there are no casts in angle brackets. -/
  | markup
deriving DecidableEq, Repr

/-- The dialect that goes with an extension: markup if it ends in `x`. -/
def ScriptVariant.ofExtension (extension : String) : ScriptVariant :=
  if extension.toList.getLast? = some 'x' then markup else plain

/-- The dialect of the module under a path. -/
def ScriptVariant.ofPath (path : FsPath) : ScriptVariant := ofExtension (FsPath.extname path.text)

/-- Where a script comes from: the paths of its sources and their texts. -/
structure SourceMap where
  sources : List String
  sourcesContent : List String
deriving DecidableEq, Repr

/-- A list of quoted texts. -/
def SourceMap.quotedList (texts : List String) : String :=
  "[" ++ ",".intercalate (texts.map Text.quote) ++ "]"

/-- The text of a source map. -/
def SourceMap.text (m : SourceMap) : String :=
  "\x7b\"version\":3,\"names\":[],\"sources\":" ++ quotedList m.sources ++
    ",\"sourcesContent\":" ++ quotedList m.sourcesContent ++ ",\"mappings\":\"\"\x7d"

/-- A script, with its source map if that was asked for. -/
structure Script where
  code : String
  map? : Option SourceMap := none
deriving DecidableEq, Repr

/-- A language: how texts are reduced to statements and how they become scripts. Either may refuse a
text with some diagnostics. -/
structure Frontend where
  reduce : ScriptVariant → String → Except (List String) (List Statement)
  /-- The path names the source in the map, which is made if the flag is set. -/
  transform : ScriptVariant → FsPath → Bool → String → Except (List String) Script

/-! ### TypeScript -/

open PlaceholderExports.Syntax PlaceholderExports.Script

/-- The tree of a text in a dialect. -/
def ScriptVariant.read (variant : ScriptVariant) (source : String) : Except Refusal Module :=
  match Module.ofText? (variant = .markup) source with
  | some m => .ok m
  | none => .error .notModule

/-- TypeScript. -/
def Frontend.typeScript : Frontend where
  reduce variant source :=
    match variant.read source with
    | .ok m => .ok m.statements
    | .error e => .error [e.message]
  transform variant path withMap source :=
    match variant.read source >>= moduleText with
    | .ok code =>
      .ok { code, map? := if withMap then some ⟨[path.text], [source]⟩ else none }
    | .error e => .error [e.message]

end PlaceholderExports
