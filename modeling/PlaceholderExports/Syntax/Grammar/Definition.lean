import PlaceholderExports.Syntax.Grammar.TypeTerm

/-!
# Grammar of functions and classes

What expressions and declarations share: the parts of functions after their names, and the bodies of
classes. A function without a body is a signature; whether it may be one depends on its place.
-/

namespace PlaceholderExports.Syntax.Grammar

/-- The circumstances of the parameters and the body of a function. -/
def functionScope (isAsync isGenerator : Bool) (ctx : Circumstances) : Circumstances :=
  { ctx with
    inAllowed := true, inGenerator := isGenerator, inAsync := isAsync, inFunction := true,
    noConditionalType := false, arrowTypeAllowed := true }

/-- A braced list of statements. -/
def braced : Reads (List Stmt) := do
  expect "\x7b"
  manyUntil "\x7d" Nested.statement

/-- The parts of a function after its name: type parameters, parameters, the result type and the
body. -/
def functionTail (name? : Option String) (isAsync isGenerator : Bool) :
    Reads Function := within (functionScope isAsync isGenerator) do
  typeParameters
  let params ← parameters
  returnType
  let isSignature := !(← atPunct "\x7b")
  let body ← if isSignature then pure [] else
    within (fun ctx => { ctx with isAmbient := false }) (braced)
  return { name?, isAsync, isGenerator, params, isSignature, body }

/-- Whether a function begins now, possibly an asynchronous one. -/
def atFunction : Reads Bool := do
  if ← atWord "function" then return true
  return ← atWord "async" <&&> nextIs do return (← atWord "function") && !(← afterNewline)

/-- A function from its first word on. The name of a declaration is read in the scope around it,
that of an expression in its own. -/
def functionFrom (isExpression : Bool) : Reads Function := do
  let isAsync ← eatWord "async"
  expectWord "function"
  let isGenerator ← eat "*"
  let scope := if isExpression then functionScope isAsync isGenerator else id
  let name? ← within scope do
    if ← atIdentifier then return some (← anyName) else return none
  functionTail name? isAsync isGenerator

/-- The words that may modify a class member. -/
def memberModifiers : List String :=
  ["public", "private", "protected", "static", "abstract", "override", "readonly", "declare",
   "accessor", "async"]

/-- One modifier of a class member. -/
def memberModifier : Reads (Option String) := do
  if (← atWordOf memberModifiers <&&>
      nextIs do return (← atModified) && !(← atPunct "\x7b") && !(← afterNewline)) then
    return some (← anyName)
  if ← atWord "static" <&&> nextIs do return (← atModified) && !(← atPunct "\x7b") then
    return some (← anyName)
  return none

/-- The kind of an accessor, whose mark comes now if there is one. -/
def accessorKind : Reads MethodKind := do
  if ← atAccessor then
    return if (← anyName) == "get" then .getter else .setter
  return .plain

/-- The value of a field, if there is one. -/
def fieldValue : Reads (Option Expr) := do
  if ← eat "=" then
    let scope := fun ctx : Circumstances => { ctx with
      inAllowed := true, inGenerator := false, inAsync := false, arrowTypeAllowed := true }
    return some (← within scope Nested.assignment)
  return none

/-- A class member after its decorators. -/
def classMember (ds : List Expr) : Reads ClassMember := do
  if ← atWord "static" <&&> nextIs (atPunct "\x7b") then
    advance
    return .staticBlock (← within (fun ctx => { ctx with inAsync := false, inFunction := false })
      (braced))
  let modifiers ← many memberModifier
  let isStatic := modifiers.contains "static"
  if ← atIndexSignature then
    expect "["
    indexSignatureTail
    semicolon
    return .indexSignature
  let isGenerator ← eat "*"
  let kind ← if isGenerator then pure .plain else accessorKind
  let k ← memberKey
  let _ ← eatIf (atPunctOf ["?", "!"])
  if ← atPunctOf ["(", "<"] then
    let f ← functionTail none (modifiers.contains "async") isGenerator
    if f.isSignature then semicolon
    return .method kind k isStatic f ds
  else
    require (!isGenerator && kind == .plain && !modifiers.contains "async")
    annotation
    let value? ← fieldValue
    semicolon
    if modifiers.contains "declare" || modifiers.contains "abstract" then return .declaredField k
    return .field k isStatic (modifiers.contains "accessor") value? ds

/-- The members of a class after the opening brace. -/
def classBody : Reads (List ClassMember) := do
  let members ← manyUntil "\x7d" do
    if ← eat ";" then return none
    let ds ← decorators
    return some (← classMember ds)
  return members.filterMap id

/-- The types that a class or an interface names after a word. -/
def heritage (word : String) : Reads Unit := do
  if ← eatWord word then
    let _ ← sepBy "," (namedType)

/-- The class that another one extends, if there is one. -/
def superclass : Reads (Option Expr) := do
  if ← eatWord "extends" then
    let e ← Nested.chain
    if ← eat "<" then typeArgumentsTail
    return some e
  return none

/-- A class from its first word on. -/
def classFrom (ds : List Expr) : Reads ClassDef := do
  expectWord "class"
  let named := (← atIdentifier) && !(← atWord "implements" <&&> nextIs do
    match ← token with
    | .name _ _ => return true
    | _ => return false)
  let name? ← if named then some <$> anyName else pure none
  typeParameters
  let superclass? ← superclass
  heritage "implements"
  expect "\x7b"
  let members ← classBody
  return { name?, superclass?, decorators := ds, members }

end PlaceholderExports.Syntax.Grammar
