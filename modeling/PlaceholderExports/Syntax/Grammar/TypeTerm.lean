import PlaceholderExports.Syntax.Grammar.Pattern

/-!
# Grammar of types

Types are read to find where they end and to refuse what is none; nothing of them is kept. A type is
a function type, or a union of intersections of operands, which a condition may follow.

* `type`: any type.
* `typeArguments?`, `typeParameters`: lists in angle brackets.
* `returnType`: the type after the parameters of a function, which may be a predicate.
-/

namespace PlaceholderExports.Syntax.Grammar

/-- Reads a type in which conditional types may stand unbracketed again. -/
def freeType : Reads Unit :=
  within (fun ctx => { ctx with noConditionalType := false }) Nested.type

/-- Reads a type in which no conditional type may stand unbracketed. -/
def conditionType : Reads Unit :=
  within (fun ctx => { ctx with noConditionalType := true }) Nested.type

/-- Type arguments after their opening bracket; there is at least one. -/
def typeArgumentsTail : Reads Unit := do
  let args ← separated ">" (freeType)
  require !args.isEmpty

/-- Type arguments on the same line, if there are any. -/
def typeArguments? : Reads Unit := do
  if ← eatOnLine "<" then typeArgumentsTail

/-- One type parameter. -/
def typeParameter : Reads Unit := do
  let _ ← many do
    if (← atWordOf ["in", "out", "const"] <&&> nextIs do
        return (← atModified) && !(← afterNewline) && !(← atWord "extends")) then
      advance
      return some ()
    return none
  let _ ← identifier
  if ← eatWord "extends" then freeType
  if ← eat "=" then freeType

/-- Type parameters, if there are any. -/
def typeParameters : Reads Unit := do
  if ← eat "<" then
    let params ← separated ">" (typeParameter)
    require !params.isEmpty

/-- A type, or a predicate on a parameter or on `this`. -/
def typeOrPredicate : Reads Unit := do
  let isPredicate ← ahead do
    let subject ← atIdentifier
    require (subject || (← atWord "this"))
    advance
    return (← atWord "is") && !(← afterNewline)
  if isPredicate then
    advance
    advance
  Nested.type

/-- The result type of a function, if there is one. -/
def returnType : Reads Unit := do
  if ← eat ":" then within (fun ctx => { ctx with noConditionalType := false }) (typeOrPredicate)

/-- A signature: type parameters, parameters and a result type. -/
def signature : Reads Unit := do
  typeParameters
  let _ ← parameters
  returnType

/-- A dotted name whose later parts may be keywords. -/
def dottedTail : Reads (List String) :=
  many do
    if ← eat "." then
      match ← token with
      | .privateName n =>
        advance
        return some n
      | _ => return some (← anyName)
    return none

/-- A named type with its arguments. -/
def namedType : Reads Unit := do
  let _ ← identifier
  let _ ← dottedTail
  typeArguments?

/-- The attributes of an imported type after a comma. -/
def importTypeOptions : Reads Unit := do
  if ← eat "," then
    if !(← atPunct ")") then
      let _ ← Nested.assignment
      let _ ← eat ","

/-- A type of another module, after `import`. -/
def importType : Reads Unit := do
  expect "("
  freeType
  importTypeOptions
  expect ")"
  let _ ← dottedTail
  typeArguments?

/-- The type of a value, after `typeof`. -/
def valueType : Reads Unit := do
  if ← eatWord "import" then importType
  else
    let subject ← atIdentifier
    require (subject || (← atWord "this"))
    advance
    let _ ← dottedTail
    typeArguments?

/-- The end of a member of an object type. -/
def memberEnd : Reads Unit := do
  if !(← eat ",") then semicolon

/-- Whether an index signature begins at an opening bracket. -/
def atIndexSignature : Reads Bool := ahead do
  expect "["
  if ← atPunctOf ["...", "]"] then return true
  if ← atWordOf parameterModifiers <&&> nextIs atIdentifier then return true
  require (← atIdentifier)
  advance
  if ← atPunctOf [":", ","] then return true
  if !(← eat "?") then return false
  atPunctOf [":", ",", "]"]

/-- An index signature after its opening bracket. -/
def indexSignatureTail : Reads Unit := do
  let _ ← separated "]" (parameter)
  annotation

/-- Whether `get` or `set` comes now as the mark of an accessor. -/
def atAccessor : Reads Bool := do
  return (← atWordOf ["get", "set"] <&&> nextIs do
    match ← token with
    | .name _ _ | .privateName _ | .string _ | .number _ | .bigint _ => return true
    | t => return t.isPunct "[")

/-- One member of an object type or of an interface. -/
def typeMember : Reads Unit := do
  if ← atPunctOf ["(", "<"] then
    signature
    memberEnd
  else if ← atWord "new" <&&> nextIs (atPunctOf ["(", "<"]) then
    advance
    signature
    memberEnd
  else
    let _ ← many do
      if ← atWord "readonly" <&&> nextIs do return (← atModified) && !(← afterNewline) then
        advance
        return some ()
      return none
    if ← atIndexSignature then
      expect "["
      indexSignatureTail
      memberEnd
    else
      if ← atAccessor then advance
      let _ ← memberKey
      let _ ← eat "?"
      if ← atPunctOf ["(", "<"] then signature else annotation
      memberEnd

/-- The members of an object type or interface after the opening brace. -/
def typeMembersTail : Reads Unit := do
  let _ ← manyUntil "\x7d" (typeMember)

/-- Whether a mapped type begins after an opening brace. -/
def atMappedType : Reads Bool := ahead do
  if ← atPunctOf ["+", "-"] then
    advance
    return (← atWord "readonly")
  let _ ← eatWord "readonly"
  expect "["
  let _ ← identifier
  atWord "in"

/-- A mapped type after the opening brace. -/
def mappedTypeTail : Reads Unit := do
  if ← eatIf (atPunctOf ["+", "-"]) then expectWord "readonly"
  else let _ ← eatWord "readonly"
  expect "["
  let _ ← identifier
  expectWord "in"
  freeType
  if ← eatWord "as" then freeType
  expect "]"
  if ← eatIf (atPunctOf ["+", "-"]) then expect "?"
  else let _ ← eat "?"
  annotation
  let _ ← eatIf (atPunctOf [";", ","])
  expect "\x7d"

/-- One element of a tuple type. -/
def tupleElement : Reads Unit := do
  let isNamed ← ahead do
    let _ ← eat "..."
    let _ ← anyName
    let _ ← eat "?"
    atPunct ":"
  let _ ← eat "..."
  if isNamed then
    let _ ← anyName
    let _ ← eat "?"
    expect ":"
  freeType
  let _ ← eat "?"

/-- Whether a function type begins at an opening parenthesis. -/
def atFunctionType : Reads Bool := ahead do
  expect "("
  if ← atPunctOf [")", "..."] then return true
  let _ ← many parameterModifier
  if !(← eatWord "this") then
    let _ ← Nested.pattern
  if ← atPunctOf [":", ",", "?", "="] then return true
  expect ")"
  atPunct "=>"

/-- Whether an assertion on a parameter begins. -/
def atAssertion : Reads Bool := do
  return (← atWord "asserts" <&&> nextIs do
    return ((← atIdentifier) || (← atWord "this")) && !(← afterNewline))

/-- A type without operators around it. -/
def primaryType : Reads Unit := do
  match ← token with
  | .string _ | .number _ | .bigint _ => advance
  | .template _ _ _ =>
    let _ ← template false (freeType)
  | .punct "-" =>
    advance
    match ← token with
    | .number _ | .bigint _ => advance
    | _ => refuse
  | .punct "\x7b" =>
    advance
    if ← atMappedType then mappedTypeTail else typeMembersTail
  | .punct "[" =>
    advance
    let _ ← separated "]" (tupleElement)
  | .punct "(" =>
    advance
    freeType
    expect ")"
  | .name "true" false | .name "false" false | .name "null" false | .name "void" false => advance
  | .name "this" false =>
    advance
    if (← atWord "is") && !(← afterNewline) then
      advance
      freeType
  | .name "typeof" false =>
    advance
    valueType
  | .name "import" false =>
    advance
    importType
  | _ =>
    if ← atAssertion then
      advance
      advance
      if ← eatWord "is" then freeType
    else namedType

/-- Whether a type begins now. -/
def atType : Reads Bool := do
  match ← token with
  | .punct p => return ["(", "[", "\x7b", "<", "-", "|", "&"].contains p
  | .name n _ =>
    return !(reservedWords.contains n) ||
      ["true", "false", "null", "void", "this", "typeof", "import", "new"].contains n
  | .string _ | .number _ | .bigint _ | .template _ _ _ => return true
  | _ => return false

/-- A type with the brackets of arrays and indexed types after it. -/
def postfixType : Reads Unit := do
  primaryType
  let _ ← many do
    if ← eatOnLine "[" then
      if ← atType then freeType
      expect "]"
      return some ()
    return none

/-- The constraint of an inferred type, if what follows is one and no condition. -/
def inferConstraint : Reads Unit := do
  let restricted := (← read).noConditionalType
  let _ ← attempt do
    expectWord "extends"
    conditionType
    if !restricted then require !(← atPunct "?")

/-- A type with the operators before it. -/
def operatorType : Reads Unit := do
  let _ ← many do
    if ← eatIf (atWordOf ["keyof", "unique", "readonly"]) then return some ()
    return none
  if ← eatWord "infer" then
    let _ ← identifier
    inferConstraint
  else within (fun ctx => { ctx with noConditionalType := false }) (postfixType)

/-- Operands with a separator between them and possibly one before them. -/
def typeSequence (separator : String) (operand : Reads Unit) : Reads Unit := do
  let _ ← eat separator
  let _ ← sepBy separator operand

/-- A union of intersections. -/
def unionType : Reads Unit := typeSequence "|" (typeSequence "&" (operatorType))

/-- Whether the type of a function or of a constructor begins. -/
def atSignatureType : Reads Bool := do
  if ← atPunct "<" then return true
  if ← atPunct "(" then atFunctionType
  else if ← atWord "new" then return true
  else return ← atWord "abstract" <&&> nextIs (atWord "new")

/-- The type of a function or of a constructor. -/
def signatureType : Reads Unit := do
  let _ ← eatWord "abstract"
  let _ ← eatWord "new"
  typeParameters
  let _ ← parameters
  expect "=>"
  typeOrPredicate

/-- Any type. -/
def type : Reads Unit := do
  if ← atSignatureType then signatureType
  else
    unionType
    let restricted := (← read).noConditionalType
    if ← eatIf (return !restricted && (← atWord "extends") && !(← afterNewline)) then
      conditionType
      expect "?"
      freeType
      expect ":"
      freeType

end PlaceholderExports.Syntax.Grammar
