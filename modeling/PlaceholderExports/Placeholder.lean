import PlaceholderExports.Classification
import PlaceholderExports.Text.Identifier
import PlaceholderExports.Text.Quoted

/-!
# Placeholder exports

A placeholder is one constant of the module that stands for the value of every export without one.
This module says which names it may have, how a name is chosen that the module does not bind, and
writes the snippet that declares it and exports it:

```text
const __fakeValueExport__ = null;
export { __fakeValueExport__ as Foo, __fakeValueExport__ as Bar };
```
-/

namespace PlaceholderExports

namespace Placeholder

/-- The name of the placeholder, unless the module already binds it. -/
def defaultBase : String := "__fakeValueExport__"

/-- Words that cannot name the placeholder. -/
def reservedWords : List String :=
  ["await", "break", "case", "catch", "class", "const", "continue", "debugger", "default",
   "delete", "do", "else", "enum", "export", "extends", "false", "finally", "for", "function",
   "if", "import", "in", "instanceof", "let", "new", "null", "return", "static", "super",
   "switch", "this", "throw", "true", "try", "typeof", "var", "void", "while", "with", "yield"]

/-- Whether a name may be given to the placeholder. -/
def isValidName (name : String) : Bool :=
  Text.isIdentifierName name && !reservedWords.contains name

/-- The base name with a number. -/
def numbered (base : String) (n : Nat) : String := base ++ "$" ++ toString n

/-- The first free name among the numbered ones, starting from a number and trying a few. -/
def firstFree (base : String) (reserved : NameSet) : Nat → Nat → Option String
  | 0, _ => none
  | tries + 1, n =>
    if numbered base n ∈ reserved then firstFree base reserved tries (n + 1)
    else some (numbered base n)

/-- The base name, or else the base name with the least number from one that is not reserved. One
try more than there are reserved names is enough. -/
def identifier (base : String) (reserved : NameSet) : String :=
  if base ∈ reserved then
    (firstFree base reserved (reserved.toList.length + 1) 1).getD base
  else base

/-- An exported name as it is written in an export clause: as it is if it is an identifier name,
quoted otherwise. -/
def exportName (name : String) : String :=
  if Text.isIdentifierName name then name else Text.quote name

/-- One export of the placeholder. -/
def specifier (placeholder name : String) : String := placeholder ++ " as " ++ exportName name

/-- Declares the placeholder and exports it under every name. Without names the export clause is
empty. -/
def snippet (names : List String) (placeholder : String) : String :=
  "\nconst " ++ placeholder ++ " = null;\nexport \x7b " ++
    ", ".intercalate (names.map (specifier placeholder)) ++ " \x7d;"

/-- The source text followed by the placeholder exports of its classification. -/
def append (source : String) (c : Classification) (placeholder : String) : String :=
  source ++ snippet c.names placeholder

end Placeholder

namespace Classification

/-- A placeholder name that nothing at top level uses. -/
def placeholder (c : Classification) (base : String := Placeholder.defaultBase) : String :=
  Placeholder.identifier base c.topLevelNames

end Classification

end PlaceholderExports
