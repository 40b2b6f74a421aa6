import PlaceholderExports.Syntax.Grammar.Definition

/-!
# Grammar of expressions

Expressions by strength of their operators, from literals to sequences. What looks like a list in
parentheses may be the parameters of an arrow function, and what looks like a comparison may be a
list of type arguments; both are tried first and taken if what follows fits.

* `primary`, `chain`: literals, names, brackets, members and calls.
* `unary`, `operand`, `conditional`, `assignment`, `expression`: operators.
-/

namespace PlaceholderExports.Syntax

/-! ### Targets of assignments -/

/-- Whether an expression is a single place that can be assigned to. -/
def Expr.isPlace : Expr → Bool
  | .name _ => true
  | .access _ _ optional | .index _ _ optional => !optional
  | .grouped e | .typed e => e.isPlace
  | _ => false

mutual

/-- Whether an expression can stand on the left of an assignment. -/
def Expr.isTarget : Expr → Bool
  | .array items => areTargets items
  | .object members => areMemberTargets members
  | .assign "=" _ _ => false
  | e => e.isPlace

/-- Whether the items of an array can stand on the left of an assignment, the rest last. -/
def areTargets : List Expr → Bool
  | [] => true
  | [.spread e] => e.isTarget
  | e :: es => (match e with
      | .atom .hole => true
      | .assign "=" _ _ => true
      | e => e.isTarget) && areTargets es

/-- Whether the members of an object can stand on the left of an assignment, the rest last. -/
def areMemberTargets : List Member → Bool
  | [] => true
  | [.spread e] => e.isPlace
  | .shorthand _ :: ms | .defaulted _ _ :: ms => areMemberTargets ms
  | .field _ (.assign "=" _ _) :: ms => areMemberTargets ms
  | .field _ e :: ms => e.isTarget && areMemberTargets ms
  | _ => false

end

mutual

/-- How many shorthands with a default an assignment to an expression takes up. -/
def Expr.takenDefaults : Expr → Nat
  | .array items => takenDefaultsOf items
  | .object members => takenMemberDefaults members
  | .spread e => e.takenDefaults
  | _ => 0

/-- The same for the items of an array. -/
def takenDefaultsOf : List Expr → Nat
  | [] => 0
  | e :: es => e.takenDefaults + takenDefaultsOf es

/-- The same for the members of an object. -/
def takenMemberDefaults : List Member → Nat
  | [] => 0
  | .defaulted _ _ :: ms => takenMemberDefaults ms + 1
  | .field _ e :: ms => e.takenDefaults + takenMemberDefaults ms
  | _ :: ms => takenMemberDefaults ms

end

/-- Whether an expression joins its operands by one of some operators, outside parentheses. -/
def Expr.joinsBy (ops : List String) : Expr → Bool
  | .binary op _ _ => ops.contains op
  | _ => false

namespace Grammar

/-- Reads with the operator `in` allowed, as between brackets. -/
def bracketed {α : Type} (p : Reads α) : Reads α :=
  within (fun ctx => { ctx with inAllowed := true, arrowTypeAllowed := true }) p

/-- Takes note of an assignment to an expression. -/
def takeDefaults (target : Expr) : Reads Unit := .step (.count (· - target.takenDefaults))

/-! ### Operators -/

/-- The operators of two operands with their strengths. -/
def binaryOperators : List (String × Nat) :=
  [("??", 1), ("||", 2), ("&&", 3), ("|", 4), ("^", 5), ("&", 6),
   ("==", 7), ("!=", 7), ("===", 7), ("!==", 7),
   ("<", 8), (">", 8), ("<=", 8), (">=", 8), ("instanceof", 8), ("in", 8), ("as", 8),
   ("satisfies", 8),
   ("<<", 9), (">>", 9), (">>>", 9), ("+", 10), ("-", 10), ("*", 11), ("/", 11), ("%", 11),
   ("**", 12)]

/-- The operators that assign. -/
def assignmentOperators : List String :=
  ["=", "+=", "-=", "*=", "/=", "%=", "**=", "<<=", ">>=", ">>>=", "&=", "|=", "^=", "&&=", "||=",
   "??="]

/-- The operator that comes now, angle brackets taken together. -/
def operatorText : Reads String := .step (.look .operator)

/-- Goes past the operator that comes now. -/
def eatOperator (op : String) : Reads Unit := .step (.scan (.operator op))

/-- The operator of two operands that comes now, with its strength. A type operator stands on the
line of its operand. -/
def binaryOperator? : Reads (Option (String × Nat)) := do
  let op ← operatorText
  if op == "in" && !(← read).inAllowed then return none
  if (op == "as" || op == "satisfies") && (← afterNewline) then return none
  return (binaryOperators.find? (·.1 == op))

/-- Whether an expression begins now. -/
def atExpression : Reads Bool := do
  match ← token with
  | .name n false =>
    return !(reservedWords.contains n) ||
      ["this", "super", "null", "true", "false", "function", "class", "new", "import", "delete",
       "typeof", "void", "in", "instanceof"].contains n
  | .name _ true | .privateName _ | .number _ | .bigint _ | .string _ | .template _ _ _ =>
    return true
  | .punct p =>
    return ["(", "[", "\x7b", "/", "/=", "+", "-", "~", "!", "++", "--", "<", "@"].contains p
  | _ => return false

/-- Type arguments of an expression, if what follows them fits. -/
def typeArgumentsOfExpr? : Reads Bool := do
  let taken ← attempt do
    expect "<"
    typeArgumentsTail
    if (← atPunct "(") || (← atTemplate) then return
    if ← atPunctOf ["<", ">", "+", "-"] then refuse
    if (← afterNewline) || (← binaryOperator?).isSome || !(← atExpression) then return
    refuse
  return taken.isSome

/-! ### Literals and brackets -/

/-- An argument, or an item of an array. -/
def spreadable : Reads Expr := do
  if ← eat "..." then return .spread (← bracketed Nested.assignment)
  bracketed Nested.assignment

/-- Arguments after their opening parenthesis. -/
def argumentsTail : Reads (List Expr) := separated ")" (spreadable)

/-- An item of an array literal. -/
def arrayItem : Reads Expr := do
  if ← atPunct "," then return .atom .hole
  spreadable

/-- Whether a property key begins now. -/
def atKey : Reads Bool := do
  match ← token with
  | .name _ _ | .privateName _ | .string _ | .number _ | .bigint _ => return true
  | t => return t.isPunct "["

/-- Whether `async` comes now as the mark of a method. -/
def atAsyncMethod : Reads Bool := do
  return (← atWord "async" <&&> nextIs do
    return ((← atKey) || (← atPunct "*")) && !(← afterNewline))

/-- A member of an object literal after its marks and its key. -/
def memberTail (first : Token) (bindable : Bool) (k : Key) : Reads Member := do
  if ← eat ":" then return .field k (← bracketed Nested.assignment)
  match first, k with
  | .name _ _, .identifier n =>
    require bindable
    if ← eat "=" then
      let value ← bracketed Nested.assignment
      .step (.count (· + 1))
      return .defaulted n value
    return .shorthand n
  | _, _ => refuse

/-- A member of an object literal. -/
def objectMember : Reads Member := do
  if ← eat "..." then return .spread (← bracketed Nested.assignment)
  let isAsync ← eatIf atAsyncMethod
  let isGenerator ← eat "*"
  let kind ← if isAsync || isGenerator then pure .plain else accessorKind
  let first ← token
  let bindable ← atIdentifier
  let k ← key
  if ← atPunctOf ["(", "<"] then
    let f ← functionTail none isAsync isGenerator
    require !f.isSignature
    return .method kind k f
  require (!isAsync && !isGenerator && kind == .plain)
  memberTail first bindable k

/-- A template with its substitutions. -/
def templateParts (isTagged : Bool) : Reads (List String × List Expr) := do
  let (first, more) ← template isTagged (bracketed Nested.expression)
  return (first :: more.map (·.2), more.map (·.1))

/-- A regular expression, whose opening slash comes now. -/
def regexLit : Reads Expr := do return .atom (← .step (.scan .regex))

/-- An import of a module at run time, after its opening parenthesis: the module, and perhaps how to
load it. -/
def importCallTail : Reads Expr := do
  let source ← bracketed Nested.assignment
  if (← eat ",") && !(← atPunct ")") then
    let settings ← bracketed Nested.assignment
    let _ ← eat ","
    expect ")"
    return .importCall [source, settings]
  expect ")"
  return .importCall [source]

/-- What follows `import` in an expression. -/
def importTail : Reads Expr := do
  if ← eat "(" then return ← importCallTail
  expect "."
  if ← eatWord "meta" then return .atom .importMeta
  require (← eatIf (atWordOf ["defer", "source"]))
  expect "("
  importCallTail

/-- What a name or keyword begins. -/
def wordPrimary (word : String) : Reads Expr := do
  match word with
  | "this" => advance; return .atom .this
  | "null" => advance; return .atom .null
  | "true" => advance; return .atom (.bool true)
  | "false" => advance; return .atom (.bool false)
  | "super" =>
    advance
    require (← atPunctOf [".", "[", "("])
    return .atom .super
  | "function" => return .function (← functionFrom true)
  | "class" => return .classExpr (← classFrom [])
  | "import" =>
    advance
    importTail
  | "async" =>
    if ← atFunction then return .function (← functionFrom true)
    return .name (← identifier)
  | _ => return .name (← identifier)

/-- A literal, a name, or what stands in brackets. -/
def primary : Reads Expr := do
  match ← token with
  | .number n => advance; return .atom (.number n)
  | .bigint digits => advance; return .atom (.bigint digits)
  | .string s => advance; return .atom (.string s)
  | .template _ _ _ =>
    let (chunks, values) ← templateParts false
    return .template chunks values
  | .punct "(" =>
    advance
    let e ← bracketed Nested.expression
    expect ")"
    return .grouped e
  | .punct "[" =>
    advance
    return .array (← separated "]" (arrayItem))
  | .punct "\x7b" =>
    advance
    return .object (← separated "\x7d" (objectMember))
  | .punct "/" | .punct "/=" => regexLit
  | .punct "<" =>
    require (← read).markup
    let e ← Nested.markup
    advance
    return e
  | .punct "@" =>
    let ds ← decorators
    return .classExpr (← classFrom ds)
  | .privateName n =>
    require (← nextIs (atWord "in"))
    advance
    return .atom (.privateName n)
  | .name n false => wordPrimary n
  | .name _ true => return .name (← identifier)
  | _ => refuse

/-! ### Members and calls -/

/-- The name of a member. -/
def accessName : Reads Access := do
  match ← token with
  | .privateName n =>
    advance
    return .privateField n
  | _ => return .field (← anyName)

/-- A member, a substitution or a mark that follows an expression, but no call. -/
def memberStep (e : Expr) : Reads (Option Expr) := do
  if ← eat "." then return some (.access e (← accessName) false)
  if ← eat "[" then
    let k ← bracketed Nested.expression
    expect "]"
    return some (.index e k false)
  if ← eatOnLine "!" then return some (.typed e)
  if ← atTemplate then
    let (chunks, values) ← templateParts true
    return some (.tagged e chunks values)
  return none

/-- What follows the mark of an optional chain. -/
def optionalStep (e : Expr) : Reads Expr := do
  if ← eat "[" then
    let k ← bracketed Nested.expression
    expect "]"
    return .index e k true
  if ← eat "<" then
    typeArgumentsTail
    require (← atPunct "(")
  if ← eat "(" then return .call e (← argumentsTail) true
  return .access e (← accessName) true

/-- A member or a call that follows an expression. -/
def chainStep (e : Expr) : Reads (Option Expr) := do
  if ← eat "(" then return some (.call e (← argumentsTail) false)
  if ← eat "?." then return some (← optionalStep e)
  if let some next ← memberStep e then return some next
  if ← atPunct "<" then
    if ← typeArgumentsOfExpr? then return some (.typed e)
  return none

/-- Whether an expression imports a module at run time. -/
def isImportCall : Expr → Bool
  | .importCall _ => true
  | _ => false

/-- The callee of `new` with the members that follow it: no import, and no optional chain. -/
def newCallee : Reads Expr := do
  let first ← if ← eatWord "new" then Nested.creation else primary
  let callee ← extend (memberStep) first
  require (!isImportCall callee && !(← atPunct "?."))
  return callee

/-- What follows `new`. -/
def newTail : Reads Expr := do
  if ← eat "." then
    expectWord "target"
    return .atom .newTarget
  let callee ← newCallee
  if ← atPunct "<" then
    let _ ← typeArgumentsOfExpr?
  if ← eat "(" then return .new callee (← argumentsTail)
  return .new callee []

/-- An expression with the members and calls that follow it. -/
def chain : Reads Expr := do
  let first ← if ← eatWord "new" then newTail else primary
  extend (chainStep) first

/-! ### Operators -/

/-- An operand with the operator that may stand after it on its line. -/
def postfixed : Reads Expr := do
  let e ← chain
  if (← atPunctOf ["++", "--"]) && !(← afterNewline) then
    require e.isPlace
    let op ← operatorText
    advance
    return .update op false e
  return e

/-- The operators that stand before their operand. -/
def unaryOperators : List String := ["+", "-", "~", "!", "delete", "void", "typeof"]

/-- An operand with the operators that stand before it. -/
def unary : Reads Expr := do
  let op ← operatorText
  if unaryOperators.contains op then
    advance
    return .unary op (← Nested.unary)
  if op == "++" || op == "--" then
    advance
    let e ← Nested.unary
    require e.isPlace
    return .update op true e
  if op == "await" && (← read).inAsync then
    advance
    return .await (← Nested.unary)
  if (← atPunct "<") && !(← read).markup then
    advance
    if !(← eatWord "const") then freeType
    expect ">"
    return .typed (← Nested.unary)
  postfixed

/-- Whether two operands may be joined: the operator for missing values does not mix with the
logical ones. -/
def mayJoin (op : String) (left right : Expr) : Bool :=
  if op == "??" then !(left.joinsBy ["||", "&&"] || right.joinsBy ["||", "&&"])
  else if op == "||" || op == "&&" then !(left.joinsBy ["??"] || right.joinsBy ["??"])
  else true

/-- An operator with its second operand, if it binds tighter than a given strength. -/
def operandStep (strength : Nat) (left : Expr) : Reads (Option Expr) := do
  match ← binaryOperator? with
  | none => return none
  | some (op, s) =>
    if s ≤ strength then return none
    eatOperator op
    if op == "as" && (← eatWord "const") then return some (.typed left)
    if op == "as" || op == "satisfies" then
      freeType
      return some (.typed left)
    if op == "**" then
      match left with
      | .unary _ _ | .await _ => refuse
      | _ => return some (.binary op left (← Nested.operand (s - 1)))
    else
      let right ← Nested.operand s
      require (mayJoin op left right)
      return some (.binary op left right)

/-- An expression whose operators bind tighter than a given strength. -/
def operand (strength : Nat) : Reads Expr := do
  extend (operandStep strength) (← unary)

/-- A choice between two expressions, or one expression. -/
def conditional : Reads Expr := do
  let test ← operand 0
  if ← eat "?" then
    let yes ← within (fun ctx => { ctx with inAllowed := true, arrowTypeAllowed := false })
      Nested.assignment
    expect ":"
    return .conditional test yes (← Nested.assignment)
  return test

/-! ### Arrow functions -/

/-- Whether parentheses or angle brackets begin an arrow function. -/
inductive ArrowShape where
  | no
  | maybe
  | yes
deriving DecidableEq, Repr

/-- The shape of what stands after an opening parenthesis. -/
def parenShape : Reads ArrowShape := do
  if ← eat ")" then return if ← atPunctOf ["=>", ":", "\x7b"] then .yes else .no
  if ← atPunctOf ["[", "\x7b"] then return .maybe
  if ← atPunct "..." then return .yes
  if (← atWordOf ("static" :: "abstract" :: "declare" :: "accessor" :: parameterModifiers)) &&
      (← nextIs atIdentifier) then
    return if ← nextIs (atWord "as") then .no else .yes
  if !((← atIdentifier) || (← atWord "this")) then return .no
  advance
  if ← atPunct ":" then return .yes
  if ← eat "?" then return if ← atPunctOf [":", ",", "=", ")"] then .yes else .no
  return if ← atPunctOf [",", "=", ")"] then .maybe else .no

/-- The shape of what stands after an opening angle bracket. -/
def angleShape : Reads ArrowShape := do
  if !((← atIdentifier) || (← atWord "const")) then return .no
  if !(← read).markup then return .maybe
  let _ ← eatWord "const"
  advance
  if ← eatWord "extends" then return if ← atPunctOf ["=", ">", "/"] then .no else .yes
  return if ← atPunctOf [",", "="] then .yes else .no

/-- Whether an arrow function with parentheses begins now. -/
def arrowShape : Reads ArrowShape := lookahead .no do
  if ← eatWord "async" then
    if ← afterNewline then return .no
  if ← eat "(" then parenShape
  else if ← eat "<" then angleShape
  else return .no

/-- The arrow and the body of an arrow function. -/
def arrowTail (isAsync : Bool) (params : List Pattern) : Reads Expr := do
  require !(← afterNewline)
  expect "=>"
  let f : Function :=
    { name? := none, isAsync, isGenerator := false, params, isSignature := false, body := [] }
  if ← atPunct "\x7b" then
    let body ← within (functionScope isAsync false) (braced)
    return .arrow { f with body }
  let scope := fun ctx : Circumstances => { functionScope isAsync false ctx with
    inAllowed := ctx.inAllowed, arrowTypeAllowed := ctx.arrowTypeAllowed }
  return .arrowValue f (← within scope Nested.assignment)

/-- An arrow function with parentheses. Between the marks of a choice, one with a result type has to
be followed by the second mark. -/
def parenArrow : Reads Expr := do
  let isAsync ← eatWord "async"
  let (params, hasType) ← within (functionScope isAsync false) do
    typeParameters
    let params ← parameters
    let hasType ← atPunct ":"
    returnType
    return (params, hasType)
  let e ← arrowTail isAsync params
  if hasType && !(← read).arrowTypeAllowed then require (← atPunct ":")
  return e

/-- Whether an arrow function with a bare parameter begins now. -/
def atBareArrow : Reads Bool := ahead do
  require (← atIdentifier)
  advance
  atPunct "=>"

/-- Whether an asynchronous arrow function with a bare parameter begins now. -/
def atBareAsyncArrow : Reads Bool := ahead do
  expectWord "async"
  require !(← afterNewline)
  require (← atIdentifier)
  advance
  atPunct "=>"

/-- Whether an expression that yields ends at once. -/
def yieldEnds : Reads Bool := do
  return (← afterNewline) || (← atPunctOf [")", "]", "\x7d", ",", ";", ":"]) ||
    (← token) == .eof || (← atWordOf ["in", "of"])

/-- What follows `yield`. -/
def yieldTail : Reads Expr := do
  if ← eatOnLine "*" then return .yield true (some (← Nested.assignment))
  if ← yieldEnds then return .yield false none
  return .yield false (some (← Nested.assignment))

/-- An assignment, or what may stand on its right. -/
def assigned : Reads Expr := do
  let target ← conditional
  let op ← operatorText
  if !assignmentOperators.contains op then return target
  require (if op == "=" then target.isTarget else target.isPlace)
  takeDefaults target
  eatOperator op
  return .assign op target (← Nested.assignment)

/-- An expression without a comma. -/
def assignment : Reads Expr := do
  if (← atWord "yield") && (← read).inGenerator then
    advance
    return ← yieldTail
  if ← atBareArrow then return ← arrowTail false [.name (← identifier)]
  if ← atBareAsyncArrow then
    advance
    return ← arrowTail true [.name (← identifier)]
  match ← arrowShape with
  | .yes => parenArrow
  | .maybe =>
    match ← attempt (parenArrow) with
    | some e => return e
    | none => assigned
  | .no => assigned

/-- An expression, possibly with commas. -/
def expression : Reads Expr := do
  let first ← assignment
  let more ← many do
    if ← eat "," then return some (← assignment)
    return none
  if more.isEmpty then return first
  return .sequence (first :: more)

end Grammar
end PlaceholderExports.Syntax
