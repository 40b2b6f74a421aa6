import PlaceholderExports.Syntax.Grammar.Expression

/-!
# Grammar of statements and declarations

Statements, and the declarations that begin with a word which may also be a plain name: whether it
does is decided by looking ahead.

* `variableDecl`, `declaration`: declarations after their modifiers.
* `startsDeclaration`: whether the words that come now begin a declaration.
* `loop`, `guarded`, `choice`: the statements with parts of their own.
-/

namespace PlaceholderExports.Syntax.Grammar

/-! ### Variables -/

/-- Whether a pattern is a plain name. -/
def isName : Pattern → Bool
  | .name _ => true
  | _ => false

/-- Whether a variable needs a value: constants and resources do, and so do all that are taken
apart. -/
def needsValue (kind : VariableKind) (target : Pattern) : Bool :=
  !isName target || kind == .const || kind == .using || kind == .awaitUsing

/-- A variable with its value, which may be left out where something else supplies it. -/
def binding (kind : VariableKind) (mayOmit : Bool) : Reads Binding := do
  let target ← Nested.pattern
  if isName target then
    let _ ← eatOnLine "!"
  annotation
  if ← eat "=" then return ⟨target, some (← Nested.assignment)⟩
  require (mayOmit || !needsValue kind target)
  return ⟨target, none⟩

/-- Variables with commas between them. -/
def bindings (kind : VariableKind) (mayOmit : Bool) : Reads (List Binding) :=
  sepBy "," (binding kind mayOmit)

/-- The variables of a declaration after its keyword. -/
def variableDecl (kind : VariableKind) : Reads Stmt := do
  let bs ← bindings kind (← read).isAmbient
  semicolon
  return .variableDecl kind bs

/-- Whether `let` comes now as a keyword. -/
def atLet : Reads Bool := do
  return (← atWord "let" <&&> nextIs do
    match ← token with
    | .name n _ => return n != "in" && n != "instanceof"
    | .punct p => return p == "[" || p == "\x7b"
    | _ => return false)

/-- Whether a resource is declared after `using`: its name stands on the same line. -/
def namesResource : Reads Bool := do
  return (← atIdentifier) && !(← afterNewline)

/-- Whether `using` comes now as a keyword. In the head of a loop, `of` after it is no name. -/
def atUsing (inHead : Bool) : Reads Bool := do
  return (← atWord "using" <&&> nextIs do
    return (← namesResource) && !(inHead && (← atWord "of")))

/-- Whether `await using` comes now as a keyword. -/
def atAwaitUsing : Reads Bool := do
  return (← atWord "await" <&&> nextIs do
    return (← atWord "using") && !(← afterNewline) && (← nextIs namesResource))

/-- The keyword of a variable declaration, if one begins now. -/
def variableKind? (inHead : Bool) : Reads (Option VariableKind) := do
  if ← eatWord "var" then return some .var
  if ← eatWord "const" then return some .const
  if ← eatIf atLet then return some .let
  if ← eatIf (atUsing inHead) then return some .using
  if ← eatIf atAwaitUsing then
    advance
    return some .awaitUsing
  return none

/-! ### Declarations of types -/

/-- The name of a declaration. -/
def declaredName : Reads String := identifier

/-- A type alias after its word. -/
def typeAlias : Reads Stmt := do
  let name ← declaredName
  typeParameters
  expect "="
  freeType
  semicolon
  return .typeAlias name

/-- An interface after its word. -/
def interfaceDecl : Reads Stmt := do
  let name ← declaredName
  typeParameters
  heritage "extends"
  expect "\x7b"
  typeMembersTail
  return .interfaceDecl name

/-- The name of a member of an enumeration. -/
def enumMemberName : Reads String := do
  if ← eat "[" then
    let name ← match ← token with
      | .string s => pure s.value
      | .template chunk true true => pure chunk
      | _ => refuse
    advance
    expect "]"
    return name
  match ← token with
  | .string s =>
    advance
    return s.value
  | _ => anyName

/-- A member of an enumeration. -/
def enumMember : Reads Binding := do
  let name ← enumMemberName
  let value? ← if ← eat "=" then some <$> bracketed Nested.assignment else pure none
  return ⟨.name name, value?⟩

/-- An enumeration after its word. -/
def enumDecl : Reads Stmt := do
  let name ← declaredName
  expect "\x7b"
  return .enumDecl name (← separated "\x7d" (enumMember))

/-- The statements of a namespace, which may be left out after a quoted name. -/
def namespaceBody (mayOmit : Bool) : Reads (List Stmt) := do
  if mayOmit && !(← atPunct "\x7b") then
    semicolon
    return []
  braced

/-- A namespace after its word. -/
def namespaceDecl : Reads Stmt := do
  match ← token with
  | .string s =>
    advance
    return .namespaceDecl (.string s) (← namespaceBody true)
  | _ =>
    let first ← declaredName
    let more ← many do
      if ← eat "." then return some (← anyName)
      return none
    return .namespaceDecl (.names first more) (← namespaceBody false)

/-! ### Declarations -/

/-- The words that may stand before a declaration. -/
def declarationModifiers : List String :=
  ["abstract", "accessor", "async", "declare", "private", "protected", "public", "readonly",
   "static"]

/-- Whether the word that comes now begins a declaration, unless it is a modifier, which is skipped.
Any modifier but `static` has to stand on the line of the next word. -/
def declarationStart? : Reads (Option Bool) := do
  if ← atWordOf ["var", "let", "const", "function", "class", "enum"] then return some true
  if ← eatIf (atWordOf ["interface", "type"]) then
    return some ((← atIdentifier) && !(← afterNewline))
  if ← eatIf (atWordOf ["module", "namespace"]) then
    return some (!(← afterNewline) && ((← atIdentifier) || (match ← token with
      | .string _ => true
      | _ => false)))
  if ← eatWord "global" then
    return some ((← atIdentifier) || (← atPunct "\x7b") || (← atWord "export"))
  if ← eatWord "import" then
    return some (match ← token with
      | .string _ | .name _ _ => true
      | t => t.isPunct "*" || t.isPunct "\x7b")
  if ← eatWord "export" then
    return some ((← atPunctOf ["=", "*", "\x7b", "@"]) || (← atWordOf ["default", "as"]))
  let isStatic ← atWord "static"
  if ← eatIf (atWordOf declarationModifiers) then
    return if !isStatic && (← afterNewline) then some false else none
  return some false

/-- Whether the words that come now begin a declaration. -/
def startsDeclaration : Reads Bool := ahead do
  let found ← extend (fun
    | some _ => return none
    | none => return some (← declarationStart?)) none
  return found == some true

/-- The modifiers before a declaration. `const` is one before `enum`; the mark of a function is
none. -/
def modifiersBefore : Reads (List String) :=
  many do
    if ← atFunction then return none
    if ← atWord "const" <&&> nextIs (atWord "enum") then return some (← anyName)
    if (← atWordOf declarationModifiers <&&> nextIs do
        match ← token with
        | .name _ _ => return !(← afterNewline)
        | _ => return false) then
      return some (← anyName)
    if (← atWord "static" <&&> nextIs do
        match ← token with
        | .name _ _ => return true
        | _ => return false) then
      return some (← anyName)
    return none

/-- Refuses modifiers that do not fit. -/
def allow (allowed modifiers : List String) : Reads Unit :=
  require (modifiers.all allowed.contains)

/-- A named function declaration. One that is declared has no body. -/
def functionDecl (modifiers : List String) : Reads Stmt := do
  allow ["declare"] modifiers
  let f ← functionFrom false
  require f.name?.isSome
  if f.isSignature then semicolon
  else require !(modifiers.contains "declare")
  return .function f

/-- A named class declaration. -/
def classDecl (decorators : List Expr) (modifiers : List String) : Reads Stmt := do
  allow ["declare", "abstract"] modifiers
  let c ← classFrom decorators
  require c.name?.isSome
  return .classDecl c

/-- What an import alias stands for. -/
def aliasTarget : Reads AliasTarget := do
  if ← atWord "require" <&&> nextIs (atPunct "(") then
    advance
    expect "("
    let s ← stringLit
    expect ")"
    return .require s
  let first ← identifier
  return .entity (first :: (← dottedTail))

/-- An import alias after its name. -/
def aliasTail (name : String) (typeOnly : Bool) : Reads Stmt := do
  expect "="
  let target ← aliasTarget
  semicolon
  return .linkage (.importAlias name typeOnly target)

/-- A declaration after its modifiers. -/
def declarationAfter (decorators : List Expr) (modifiers : List String) :
    Reads Stmt := do
  if ← atWord "class" then return ← classDecl decorators modifiers
  require decorators.isEmpty
  if ← atFunction then return ← functionDecl modifiers
  if ← eatWord "enum" then
    allow ["declare", "const"] modifiers
    return ← enumDecl
  allow ["declare"] modifiers
  if ← eatWord "var" then variableDecl .var
  else if ← eatWord "let" then variableDecl .let
  else if ← eatWord "const" then variableDecl .const
  else if ← eatWord "type" then typeAlias
  else if ← eatWord "interface" then interfaceDecl
  else if ← eatIf (atWordOf ["namespace", "module"]) then namespaceDecl
  else if ← eatWord "global" then return .namespaceDecl .global (← namespaceBody false)
  else if ← eatWord "import" then aliasTail (← identifier) false
  else refuse

/-- A declaration with its modifiers. What is declared only describes. -/
def declaration (decorators : List Expr) : Reads Stmt := do
  let modifiers ← modifiersBefore
  let isDeclared := modifiers.contains "declare"
  let d ← within (fun ctx => { ctx with isAmbient := ctx.isAmbient || isDeclared })
    (declarationAfter decorators modifiers)
  return if isDeclared then .ambient d else d

/-! ### Statements -/

/-- Whether a statement may stand where a block is not: not if it declares names for a block. -/
def mayStandAlone : Stmt → Bool
  | .variableDecl kind _ => kind == .var
  | .classDecl _ => false
  | .function f => !(f.isAsync || f.isGenerator)
  | .commented _ s => mayStandAlone s
  | _ => true

/-- A statement that is part of another one. -/
def substatement : Reads Stmt := do
  let s ← Nested.statement
  require (mayStandAlone s)
  return s

/-- An expression in parentheses. -/
def parenthesized : Reads Expr := do
  expect "("
  let e ← bracketed Nested.expression
  expect ")"
  return e

/-- A choice after `if`. -/
def choice : Reads Stmt := do
  let test ← parenthesized
  let yes ← substatement
  if ← eatWord "else" then return .ifElse test yes (← substatement)
  return .ifThen test yes

/-- An expression up to a token, if any stands before it. -/
def expressionBefore (close : String) : Reads (Option Expr) := do
  if ← eat close then return none
  let e ← bracketed Nested.expression
  expect close
  return some e

/-- The rest of the head of a counting loop after its first semicolon, and the body. -/
def countingLoop (head : Stmt) : Reads Stmt := do
  let test? ← expressionBefore ";"
  let update? ← expressionBefore ")"
  return .forLoop head test? update? (← substatement)

/-- Whether every variable that needs a value has one. -/
def areComplete (kind : VariableKind) (bs : List Binding) : Bool :=
  bs.all fun b => b.value?.isSome || !needsValue kind b.target

/-- A loop over items or keys, from the word between its parts on. -/
def iteration (isAwait : Bool) (head : Stmt) : Reads Stmt := do
  if ← eatWord "of" then
    let values ← bracketed Nested.assignment
    expect ")"
    return .forOf isAwait head values (← substatement)
  require !isAwait
  expectWord "in"
  let object ← bracketed Nested.expression
  expect ")"
  return .forIn head object (← substatement)

/-- A loop after `for`. -/
def loop : Reads Stmt := do
  let isAwait ← eatWord "await"
  expect "("
  if ← eat ";" then
    require !isAwait
    return ← countingLoop .empty
  match ← variableKind? true with
  | some kind =>
    let bs ← within (fun ctx => { ctx with inAllowed := false }) (bindings kind true)
    if ← atWordOf ["of", "in"] then return ← iteration isAwait (.variableDecl kind bs)
    require (!isAwait && areComplete kind bs)
    expect ";"
    countingLoop (.variableDecl kind bs)
  | none =>
    let e ← within (fun ctx => { ctx with inAllowed := false }) Nested.expression
    if ← atWordOf ["of", "in"] then
      require e.isTarget
      takeDefaults e
      return ← iteration isAwait (.expr e)
    require !isAwait
    expect ";"
    countingLoop (.expr e)

/-- A label on the same line, if there is one. -/
def jumpLabel? : Reads (Option String) := do
  if (← atIdentifier) && !(← afterNewline) then
    let label ← anyName
    semicolon
    return some label
  semicolon
  return none

/-- The handler of a guarded block after `catch`. -/
def handler : Reads Stmt := do
  let params ← if ← eat "(" then
      let target ← Nested.pattern
      annotation
      expect ")"
      pure [target]
    else pure []
  return .catchBlock params (← braced)

/-- A guarded block after `try`. -/
def guarded : Reads Stmt := do
  let body ← braced
  let handlers ← if ← eatWord "catch" then pure [← handler] else pure []
  let final ← if ← eatWord "finally" then pure [Stmt.finallyBlock (← braced)] else pure []
  let parts := handlers ++ final
  require !parts.isEmpty
  return .tryBlock body parts

/-- The statements of a case. -/
def caseBody : Reads (List Stmt) :=
  many do
    if (← atWordOf ["case", "default"]) || (← atPunct "\x7d") then return none
    return some (← Nested.statement)

/-- One case of a switch. -/
def switchCase : Reads Stmt := do
  if ← eatWord "default" then
    expect ":"
    return .case none (← caseBody)
  expectWord "case"
  let test ← bracketed Nested.expression
  expect ":"
  return .case (some test) (← caseBody)

/-- A switch after its word. -/
def switch : Reads Stmt := do
  let value ← parenthesized
  expect "\x7b"
  return .switch value (← manyUntil "\x7d" (switchCase))

/-- A loop after `do`. -/
def doLoop : Reads Stmt := do
  let body ← substatement
  expectWord "while"
  let test ← parenthesized
  let _ ← eat ";"
  return .doWhile body test

/-- What may be returned after `return`. -/
def returned : Reads Stmt := do
  require (← read).inFunction
  if ← atSemicolon then
    semicolon
    return .returnValue none
  let e ← bracketed Nested.expression
  semicolon
  return .returnValue (some e)

/-- What is thrown after `throw`, on the same line. -/
def thrown : Reads Stmt := do
  require !(← afterNewline)
  let e ← bracketed Nested.expression
  semicolon
  return .throwValue e

/-- An expression as a statement, or a statement with a label. -/
def plainStatement : Reads Stmt := do
  let e ← bracketed (expression)
  match e with
  | .name n =>
    if ← eat ":" then return .labeled n (← substatement)
    semicolon
    return .expr e
  | _ =>
    semicolon
    return .expr e

/-- What a keyword begins, if it is the keyword of a statement. -/
def keywordStatement? : Reads (Option Stmt) := do
  if ← eatWord "if" then return some (← choice)
  if ← eatWord "for" then return some (← loop)
  if ← eatWord "while" then
    let test ← parenthesized
    return some (.whileLoop test (← substatement))
  if ← eatWord "do" then return some (← doLoop)
  if ← eatWord "continue" then return some (.continueTo (← jumpLabel?))
  if ← eatWord "break" then return some (.breakTo (← jumpLabel?))
  if ← eatWord "return" then return some (← returned)
  if ← eatWord "throw" then return some (← thrown)
  if ← eatWord "try" then return some (← guarded)
  if ← eatWord "switch" then return some (← switch)
  if ← eatWord "with" then
    let object ← parenthesized
    return some (.withObject object (← substatement))
  if ← eatWord "debugger" then
    semicolon
    return some .debugger
  return none

/-- A function, a class or variables, whose words are never plain names here, if they begin now. -/
def keywordDeclaration? : Reads (Option Stmt) := do
  if ← atFunction then return some (← functionDecl [])
  if ← atWord "class" then return some (← classDecl [] [])
  if ← atWord "const" <&&> nextIs (atWord "enum") then return some (← declaration [])
  match ← variableKind? false with
  | some kind => return some (← variableDecl kind)
  | none => return none

/-- A statement that holds no import or export. -/
def innerStatement : Reads Stmt := do
  if ← eat ";" then return .empty
  if ← atPunct "\x7b" then return .block (← braced)
  if let some s ← keywordStatement? then return s
  if let some s ← keywordDeclaration? then return s
  if ← startsDeclaration then return ← declaration []
  plainStatement

end PlaceholderExports.Syntax.Grammar
