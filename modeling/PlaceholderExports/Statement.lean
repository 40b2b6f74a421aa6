/-!
# The statements of a module that matter for its exports

A module is reduced to one `Statement` for each of its top-level statements. A statement keeps the
kind of declaration, the names that it binds, and whether it is exported in place.
-/

namespace PlaceholderExports

/-- What one declarator of a variable statement binds. -/
inductive Declarator where
  /-- A plain identifier. -/
  | identifier (name : String)
  /-- A destructuring pattern, with every name that it binds. -/
  | pattern (names : List String)
deriving DecidableEq, Repr

namespace Declarator

/-- The declared name, if the declarator is a plain identifier. -/
def identifier? : Declarator → Option String
  | identifier name => some name
  | pattern _ => none

/-- Every name that the declarator binds, in order. -/
def boundNames : Declarator → List String
  | identifier name => [name]
  | pattern names => names

end Declarator

/-- One element of an export clause. -/
structure ExportElement where
  /-- The name inside the module. -/
  localName : String
  /-- The name that importers see. -/
  exportedName : String
  /-- The element itself is marked as a type. -/
  typeOnly : Bool := false
deriving DecidableEq, Repr

/-- Whether the element is exported under another name than its local one. -/
def ExportElement.isRenamed (e : ExportElement) : Bool := e.localName != e.exportedName

/-- A braced list of exports, possibly of names of another module. -/
structure ExportClause where
  elements : List ExportElement := []
  /-- The clause as a whole exports types only. -/
  typeOnly : Bool := false
  /-- The module whose names are exported, if it is not this one. -/
  specifier? : Option String := none
deriving DecidableEq, Repr

/-- A clause passes on another module's names if its specifier is present and not empty. -/
def ExportClause.isReexport (c : ExportClause) : Bool :=
  match c.specifier? with
  | some specifier => !specifier.isEmpty
  | none => false

/-- The kinds of top-level statement. -/
inductive StatementKind where
  | typeAlias (name : String)
  | interfaceDecl (name : String)
  | variableDecl (declarators : List Declarator)
  /-- A function; one that is exported as default may have no name. -/
  | functionDecl (name? : Option String)
  /-- A class; one that is exported as default may have no name. -/
  | classDecl (name? : Option String)
  | enumDecl (name : String)
  | exportClause (clause : ExportClause)
  /-- Names bound by an import or a namespace, which are not classified. -/
  | importNames (names : List String)
  | other
deriving DecidableEq, Repr

/-- One top-level statement. -/
structure Statement where
  kind : StatementKind
  /-- The statement carries an `export` of its own. -/
  exported : Bool := false
deriving DecidableEq, Repr

end PlaceholderExports
