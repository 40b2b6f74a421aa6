import PlaceholderExports.Syntax.Reader

/-!
# Grammar of keys, patterns and parameters

Property keys, binding patterns with their defaults, and the parameters of functions. A rest stands
last and has no comma after it. The `this` parameter only describes a type and is dropped.
-/

namespace PlaceholderExports.Syntax.Grammar

/-- The key of a property. -/
def key : Reads Key := do
  match ← token with
  | .name n _ =>
    advance
    return .identifier n
  | .string s =>
    advance
    return .string s
  | .number n =>
    advance
    return .number n
  | .bigint digits =>
    advance
    return .bigint digits
  | .punct "[" =>
    advance
    let e ← within (fun ctx => { ctx with inAllowed := true }) Nested.assignment
    expect "]"
    return .computed e
  | _ => refuse

/-- The key of a class member, which may be private. -/
def memberKey : Reads Key := do
  match ← token with
  | .privateName n =>
    advance
    return .privateName n
  | _ => key

/-- A default after a pattern, if there is one. -/
def withInitializer (target : Pattern) : Reads Pattern := do
  if ← eat "=" then
    return .withDefault target
      (← within (fun ctx => { ctx with inAllowed := true }) Nested.assignment)
  else return target

/-- A pattern nested in another one, with its default. -/
def element : Reads Pattern := do withInitializer (← Nested.pattern)

/-- The rest in a pattern, which comes last. -/
def restElement (close : String) : Reads Pattern := do
  let target ← Nested.pattern
  require (← atPunct close)
  return .rest target

/-- One property of an object pattern. -/
def patternField : Reads Pattern := do
  if ← eat "..." then restElement "\x7d"
  else
    let first ← token
    let bindable ← atIdentifier
    let k ← key
    if ← eat ":" then return .field k (← element)
    match first, k with
    | .name _ _, .identifier n =>
      require bindable
      return .shorthand (← withInitializer (.name n))
    | _, _ => refuse

/-- One place of an array pattern. -/
def patternItem : Reads Pattern := do
  if ← atPunct "," then return .hole
  else if ← eat "..." then restElement "]"
  else element

/-- A binding pattern: a name, an object pattern or an array pattern. -/
def pattern : Reads Pattern := do
  if ← eat "\x7b" then return .object (← separated "\x7d" (patternField))
  else if ← eat "[" then return .array (← separated "]" (patternItem))
  else return .name (← identifier)

/-- The type after a colon, if there is one. -/
def annotation : Reads Unit := do
  if ← eat ":" then within (fun ctx => { ctx with noConditionalType := false }) Nested.type

/-- Decorators, if there are any. -/
def decorators : Reads (List Expr) :=
  many do
    if ← eat "@" then return some (← Nested.chain)
    return none

/-- The words that may modify a parameter. -/
def parameterModifiers : List String :=
  ["public", "private", "protected", "readonly", "override"]

/-- Whether the current token begins what a modifier may stand before. -/
def atModified : Reads Bool := do
  match ← token with
  | .name _ _ | .privateName _ | .string _ | .number _ | .bigint _ => return true
  | .punct p => return ["[", "\x7b", "*", "..."].contains p
  | _ => return false

/-- The modifiers of a parameter. -/
def parameterModifier : Reads (Option Unit) := do
  if ← atWordOf parameterModifiers <&&> nextIs atModified then
    advance
    return some ()
  return none

/-- A parameter without its decorators; nothing for a `this` parameter. -/
def plainParameter : Reads (Option Pattern) := do
  let modifiers ← many parameterModifier
  let isRest ← eat "..."
  if ← eatWord "this" then
    annotation
    return none
  let target ← Nested.pattern
  let _ ← eat "?"
  annotation
  let target ← withInitializer target
  if isRest then require (← atPunct ")")
  let target := if isRest then .rest target else target
  return some (if modifiers.isEmpty then target else .fieldParam target)

/-- A parameter. -/
def parameter : Reads (Option Pattern) := do
  let ds ← decorators
  let target? ← plainParameter
  return target?.map fun target => if ds.isEmpty then target else .decorated ds target

/-- Parameters after their opening parenthesis, up to and past the closing one. -/
def parametersTail : Reads (List Pattern) := do
  let params ← separated ")" (within (fun ctx => { ctx with inAllowed := true }) (parameter))
  return params.filterMap id

/-- Parameters in parentheses. -/
def parameters : Reads (List Pattern) := do
  expect "("
  parametersTail

end PlaceholderExports.Syntax.Grammar
