import PlaceholderExports.Syntax.Grammar.Statement

/-!
# Grammar of imports and exports

`type` in a clause is a mark or a name, depending on the words after it; `specifier` takes the
reading that leaves a name. A clause without a module exports names of this one, so these have to be
identifiers.
-/

namespace PlaceholderExports.Syntax.Grammar

/-! ### Names and specifiers -/

/-- A name that importers see: any word, or a string without lone surrogates. -/
def moduleName : Reads ModuleName := do
  match ← token with
  | .string s =>
    require !s.hasLoneSurrogate
    advance
    return .string s
  | _ => return .identifier (← anyName)

/-- Whether such a name comes now. -/
def atModuleName : Reads Bool := do
  match ← token with
  | .string _ | .name _ _ => return true
  | _ => return false

/-- An element of a clause that begins with the word `type`, after that word. -/
def typeSpecifier : Reads Specifier := do
  let type : ModuleName := .identifier "type"
  let named := fun (inner outer : ModuleName) (typeOnly : Bool) =>
    (⟨inner, outer, typeOnly⟩ : Specifier)
  if ← eatWord "as" then
    if ← eatWord "as" then
      if ← atModuleName then return named (.identifier "as") (← moduleName) true
      return named type (.identifier "as") false
    if ← atModuleName then return named type (← moduleName) false
    return named (.identifier "as") (.identifier "as") true
  if ← atModuleName then
    let inner ← moduleName
    if ← eatWord "as" then return named inner (← moduleName) true
    return named inner inner true
  return named type type false

/-- An element of a clause. -/
def specifier : Reads Specifier := do
  if ← eatIf (return (← token) == .name "type" false) then return ← typeSpecifier
  let inner ← moduleName
  if ← eatWord "as" then return ⟨inner, ← moduleName, false⟩
  return ⟨inner, inner, false⟩

/-- The elements of a clause after its opening brace. One that is marked by itself does not stand in
a clause that is marked as a whole. -/
def specifiers (typeOnly : Bool) : Reads (List Specifier) := do
  let ss ← separated "\x7d" specifier
  require (!(typeOnly && ss.any (·.typeOnly)))
  return ss

/-- One attribute of a module. -/
def sourceAttribute : Reads (ModuleName × StringLit) := do
  let k ← moduleName
  expect ":"
  return (k, ← stringLit)

/-- The module of an import or export, with its attributes. -/
def moduleSource : Reads ModuleSource := do
  let specifier ← stringLit
  if ← eatWordOnLine "assert" then
    expect "\x7b"
    return { specifier, attributes := ← separated "\x7d" sourceAttribute }
  if ← eatWord "with" then
    expect "\x7b"
    return { specifier, attributes := ← separated "\x7d" sourceAttribute }
  return { specifier }

/-! ### Imports -/

/-- What an element of an import clause binds. -/
def bindingOf (s : Specifier) : Reads ImportBinding := do
  match s.outer with
  | .identifier name =>
    require (← isIdentifierHere name)
    return .named s.inner name s.typeOnly
  | .string _ => refuse

/-- What an import binds after its default: everything under one name, or the names of a clause. -/
def importedNames (typeOnly : Bool) : Reads (List ImportBinding) := do
  if ← eat "*" then
    expectWord "as"
    return [.all (← identifier)]
  expect "\x7b"
  (← specifiers typeOnly).mapM bindingOf

/-- An import after its mark and its default, if it has these. -/
def importFrom (typeOnly : Bool) (default? : Option String) : Reads Stmt := do
  let first := default?.toList.map ImportBinding.default
  let more ← match default? with
    | none => importedNames typeOnly
    | some _ => if ← eat "," then importedNames typeOnly else pure []
  expectWord "from"
  let source ← moduleSource
  semicolon
  return .linkage (.importNames typeOnly (some (first ++ more)) source)

/-- Whether `type`, which has just been passed, marks the import. -/
def marksImport : Reads Bool := do
  let named ← atIdentifier
  if ← atWord "from" then
    return named && (← nextIs do return (← atWord "from") || (← atPunct "="))
  return named || (← atPunctOf ["*", "\x7b"])

/-- The mark of an import, if it has one. -/
def importMark : Reads Bool := do
  if ← ahead (do expectWord "type"; marksImport) then
    advance
    return true
  return false

/-- An import after its word. -/
def importStatement : Reads Stmt := do
  match ← token with
  | .string _ =>
    let source ← moduleSource
    semicolon
    return .linkage (.importNames false none source)
  | _ =>
    let typeOnly ← importMark
    if ← atIdentifier then
      let name ← anyName
      if ← atPunct "=" then return ← aliasTail name typeOnly
      importFrom typeOnly (some name)
    else importFrom typeOnly none

/-! ### Exports -/

/-- The words that are no names of this module although they may be identifiers elsewhere. -/
def strictWords : List String :=
  ["let", "static", "implements", "interface", "package", "private", "protected", "public", "yield",
   "await"]

/-- Whether an export without a module may name something so. -/
def isLocalName : ModuleName → Bool
  | .identifier name => !(reservedWords.contains name || strictWords.contains name)
  | .string _ => false

/-- An export clause after its opening brace. -/
def exportClause (typeOnly : Bool) : Reads Stmt := do
  let ss ← specifiers typeOnly
  if ← eatWord "from" then
    let source ← moduleSource
    semicolon
    return .linkage (.exportNames typeOnly ss (some source))
  require (ss.all fun s => isLocalName s.inner)
  semicolon
  return .linkage (.exportNames typeOnly ss none)

/-- An export of everything, after its star. -/
def exportAll (typeOnly : Bool) : Reads Stmt := do
  let alias? ← if ← eatWord "as" then some <$> moduleName else pure none
  expectWord "from"
  let source ← moduleSource
  semicolon
  return .linkage (.exportAll typeOnly alias? source)

/-- Whether a word on the same line follows the current one. -/
def wordFollows (words : List String) : Reads Bool :=
  nextIs do return (← atWordOf words) && !(← afterNewline)

/-- A default export after its words: a declaration, whose name may be left out, or an
expression. -/
def exportDefault (before : List Expr) : Reads Stmt := do
  let ds := before ++ (← decorators)
  if ← atFunction then
    let f ← functionFrom false
    if f.isSignature then semicolon
    return .exportDefault (.function f)
  if (← atWord "abstract") && (← wordFollows ["class"]) then
    advance
    return .exportDefault (.classDecl (← classFrom ds))
  if ← atWord "class" then return .exportDefault (.classDecl (← classFrom ds))
  require ds.isEmpty
  if ← atWord "interface" <&&> nextIs do return (← atIdentifier) && !(← afterNewline) then
    advance
    return .exportDefault (← interfaceDecl)
  let e ← bracketed (assignment)
  semicolon
  return .exportDefaultValue e

/-- Whether `type`, which comes now, marks an export clause. -/
def marksExport : Reads Bool := do
  return ← atWord "type" <&&> nextIs (atPunctOf ["\x7b", "*"])

/-- An export after its word and the decorators before it. -/
def exportTail (ds : List Expr) : Reads Stmt := do
  if ← eatWord "default" then return ← exportDefault ds
  if ← atPunct "@" then
    return .exportDecl (← declaration (ds ++ (← decorators)))
  if !ds.isEmpty then return .exportDecl (← declaration ds)
  if ← eat "=" then
    let e ← bracketed (assignment)
    semicolon
    return .exportAssign e
  if ← eatWord "as" then
    expectWord "namespace"
    let name ← identifier
    semicolon
    return .linkage (.exportAsNamespace name)
  let typeOnly ← eatIf marksExport
  if ← eat "\x7b" then return ← exportClause typeOnly
  if ← eat "*" then return ← exportAll typeOnly
  if ← atWord "import" then
    advance
    let isMarked ← importMark
    return .exportDecl (← aliasTail (← identifier) isMarked)
  return .exportDecl (← declaration [])

/-- A declaration after decorators, which may be exported. -/
def decorated : Reads Stmt := do
  let ds ← decorators
  if ← eatWord "export" then exportTail ds else declaration ds

/-- Whether an import begins now, and not an expression. -/
def atImport : Reads Bool := do
  return ← atWord "import" <&&> nextIs do return !(← atPunctOf ["(", "."])

/-- Any statement without its comments. -/
def bareStatement : Reads Stmt := do
  if ← eatWord "export" then return ← exportTail []
  if ← eatIf atImport then return ← importStatement
  if ← atPunct "@" then return ← decorated
  innerStatement

/-- A statement with the comments before it, if there are any. -/
def withComments (comments : List Comment) (s : Stmt) : Stmt :=
  if comments.isEmpty then s else .commented comments s

/-- Any statement, with the comments before it. -/
def statement : Reads Stmt := do
  let comments ← .step (.look (.comments (← read).isFirst))
  let s ← within (fun ctx => { ctx with isFirst := false }) (bareStatement)
  return withComments comments s

end PlaceholderExports.Syntax.Grammar
