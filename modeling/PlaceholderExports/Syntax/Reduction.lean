import PlaceholderExports.Statement
import PlaceholderExports.Syntax.Tree

/-!
# Reducing modules to statements

What a tree says about the exports of its module: one `Statement` for each statement at the top
level.

* `Pattern.boundNames`: the names that a pattern binds, in order.
* `Stmt.reduced`: the statement of a tree.
* `Module.statements`: the statements of a module.
-/

namespace PlaceholderExports.Syntax

mutual

/-- The names that a pattern binds, in the order of the text. -/
def Pattern.boundNames : Pattern → List String
  | .name id => [id]
  | .object fields => boundNamesOf fields
  | .array items => boundNamesOf items
  | .withDefault target _ | .field _ target | .shorthand target | .rest target
  | .fieldParam target | .decorated _ target => target.boundNames
  | .hole => []

/-- The names that some patterns bind. -/
def boundNamesOf : List Pattern → List String
  | [] => []
  | p :: ps => p.boundNames ++ boundNamesOf ps

end

/-- What a binding declares. -/
def Binding.declarator (b : Binding) : Declarator :=
  match b.target with
  | .name id => .identifier id
  | p => .pattern p.boundNames

/-- The text of a name in a clause. -/
def ModuleName.text : ModuleName → String
  | identifier name => name
  | string s => s.value

/-- An element of an export clause. -/
def Specifier.exportElement (s : Specifier) : ExportElement :=
  { localName := s.inner.text, exportedName := s.outer.text, typeOnly := s.typeOnly }

/-- What an import or export that holds no declaration says. -/
def Linkage.kind : Linkage → StatementKind
  | importAlias name _ _ => .importNames [name]
  | importNames _ bindings? _ => .importNames ((bindings?.getD []).map ImportBinding.name)
  | exportNames typeOnly specifiers source? =>
    .exportClause
      { elements := specifiers.map Specifier.exportElement, typeOnly
        specifier? := source?.map (·.specifier.value) }
  | exportAll _ _ _ | exportAsNamespace _ => .other

/-- The names that the name of a namespace binds. -/
def NamespaceName.kind : NamespaceName → StatementKind
  | names first _ => .importNames [first]
  | global => .importNames ["global"]
  | string _ => .other

/-- The kind of a statement. A declaration that only describes is of the kind of what it describes,
and one that is exported of the kind of what is exported. -/
def Stmt.kind : Stmt → StatementKind
  | .variableDecl _ bindings => .variableDecl (bindings.map Binding.declarator)
  | .function f => .functionDecl f.name?
  | .classDecl c => .classDecl c.name?
  | .ambient d => d.kind
  | .typeAlias name => .typeAlias name
  | .interfaceDecl name => .interfaceDecl name
  | .enumDecl name _ => .enumDecl name
  | .namespaceDecl name _ => name.kind
  | .linkage l => l.kind
  | .exportDecl d | .exportDefault d => d.kind
  | .commented _ s => s.kind
  | _ => .other

/-- The statement of a tree. A default export does not export the name of its declaration. -/
def Stmt.reduced : Stmt → Statement
  | .exportDecl d => { kind := d.kind, exported := true }
  | .commented _ s => s.reduced
  | s => { kind := s.kind }

/-- The statements of a module. -/
def Module.statements (m : Module) : List Statement := m.body.map Stmt.reduced

end PlaceholderExports.Syntax
