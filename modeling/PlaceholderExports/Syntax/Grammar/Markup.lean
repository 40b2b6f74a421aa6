import PlaceholderExports.Syntax.Grammar.Expression

/-!
# Grammar of markup

Elements with a tag and attributes, and fragments without. What stands between elements is text, not
tokens, so an element is read up to its last bracket and the cursor stays there: what follows is
read as tokens or as text by whoever asked for the element.
-/

namespace PlaceholderExports.Syntax.Grammar

open PlaceholderExports.Text (isIdentifierStart isIdentifierPart)

/-- A name in markup, which may hold hyphens. -/
def markupWord : Reads String := .step (.scan .markupWord)

/-- A part of a dotted tag, which holds no hyphens. -/
def tagPart : Reads (Option String) := do
  if ← eat "." then
    let part ← markupWord
    require (!part.contains '-')
    return some part
  return none

/-- The tag of an element: one name, a name in a namespace, or dotted names. -/
def tagName : Reads String := do
  let first ← markupWord
  if ← eat ":" then return first ++ ":" ++ (← markupWord)
  let more ← many tagPart
  require (more.isEmpty || !first.contains '-')
  return ".".intercalate (first :: more)

/-- The value of an attribute. -/
def attributeValue : Reads Expr := do
  if ← eat "\x7b" then
    let e ← bracketed Nested.expression
    expect "\x7d"
    return e
  if ← atPunct "<" then
    let e ← Nested.markup
    advance
    return e
  return .atom (.string (← .step (.scan .quotedValue)))

/-- The name of an attribute, possibly in a namespace. -/
def attributeName : Reads String := do
  let first ← markupWord
  if ← eat ":" then return first ++ ":" ++ (← markupWord)
  return first

/-- An attribute, if one comes now; one without a value is true. -/
def attribute? : Reads (Option Member) := do
  if ← atPunctOf ["/", ">"] then return none
  if ← eat "\x7b" then
    expect "..."
    let e ← bracketed Nested.expression
    expect "\x7d"
    return some (.spread e)
  let name ← attributeName
  if ← eat "=" then return some (.field (.identifier name) (← attributeValue))
  return some (.field (.identifier name) (.atom (.bool true)))

/-- A substitution among the children of an element, up to its closing brace. -/
def markupSubstitution : Reads (List Expr) := do
  expect "\x7b"
  if ← atPunct "\x7d" then return []
  let isSpread ← eat "..."
  let e ← bracketed Nested.expression
  require (← atPunct "\x7d")
  return [if isSpread then .spread e else e]

/-- The text after the current token up to the next bracket or brace, if there is any. -/
def markupText : Reads (List Expr) := do
  let text ← .step (.scan .markupText)
  return if text.isEmpty then [] else [.atom (.markupText text)]

/-- A stretch of text and the child after it, or the stretch before the closing tag. -/
def markupChild? : Reads (Option (List Expr)) := do
  if (← atPunct "/") then return none
  let text ← markupText
  if ← atPunct "\x7b" then return some (text ++ (← markupSubstitution))
  require (← atPunct "<")
  if ← nextIs (atPunct "/") then
    advance
    return some text
  return some (text ++ [← Nested.markup])

/-- The children of an element after the last bracket of its opening tag, up to the slash of its
closing tag. -/
def markupChildren : Reads (List Expr) := do
  return (← many (markupChild?)).flatten

/-- The closing tag of an element after its slash, up to its last bracket. -/
def closingTag (tag? : Option String) : Reads Unit := do
  expect "/"
  match tag? with
  | some tag => require ((← tagName) == tag)
  | none => pure ()
  require (← atPunct ">")

/-- An element or a fragment, up to its last bracket. -/
def markup : Reads Expr := do
  expect "<"
  if ← atPunct ">" then
    let children ← markupChildren
    closingTag none
    return .markup none [] children
  let tag ← tagName
  if ← eat "<" then typeArgumentsTail
  let attributes ← many (attribute?)
  if ← eat "/" then
    require (← atPunct ">")
    return .markup (some tag) attributes []
  require (← atPunct ">")
  let children ← markupChildren
  closingTag (some tag)
  return .markup (some tag) attributes children

end PlaceholderExports.Syntax.Grammar
