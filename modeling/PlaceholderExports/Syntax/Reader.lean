import PlaceholderExports.Syntax.Token

/-!
# Readers of token sequences

A cursor stands at a token of a text. A reader moves the cursor on and gives a result, or refuses
the text. Readers are data: `Reads` says how they are put together from looks at the cursor and
moves of it, and `Reads.run` carries one out. What is read inside brackets, after operators and so
on is nested; a reader calls the `Rule` for it by name, and the knot is tied once, by recursion on
the depth of nesting.

* `Cursor.advance`: the next token.
* `Look`, `Scan`, `Step`: the elementary steps.
* `Reads`, `Reads.run`: readers, which know the circumstances of the place they read.
* `manyUntil`, `separated`: repetition, which ends because the text does.
-/

namespace PlaceholderExports.Syntax

/-! ### Cursors -/

/-- A place in a text: the token there, the text after the token before it, from the token on, and
after it, and whether a line ends before it. -/
structure Cursor where
  token : Token
  before : List Char
  start : List Char
  rest : List Char
  newline : Bool
  /-- How many shorthands with a default have been read that no assignment has taken up. -/
  openDefaults : Nat := 0

namespace Cursor

/-- The cursor at the first token of a text. -/
def ofText (text : List Char) (newline : Bool) (openDefaults : Nat) : Cursor :=
  let (start, newline) := skipTrivia .between newline text
  let (token, rest) := Token.scan start
  { token, before := text, start, rest, newline, openDefaults }

/-- The cursor at the token after the current one. -/
def advance (c : Cursor) : Cursor := .ofText c.rest false c.openDefaults

/-- The comments that belong to the current token. The flag says that the text before is the start
of a line. -/
def comments (c : Cursor) (isFirst : Bool) : List Comment :=
  let gap := c.before.take (c.before.length - c.start.length)
  commentsBefore gap isFirst [] gap

/-- The cursor after a stretch of text that is no sequence of tokens. -/
def jump (c : Cursor) (rest : List Char) : Cursor := .ofText rest false c.openDefaults

/-- The operators that begin with an angle bracket; one that another one begins stands after it. -/
def angleOperators : List String :=
  [">>>=", ">>>", ">>=", ">>", ">=", ">", "<<=", "<<", "<=", "<"]

/-- The operator that comes now, angle brackets taken together. -/
def operator (c : Cursor) : String :=
  match c.token with
  | .punct p =>
    if p == "<" || p == ">" then
      (angleOperators.find? fun op => (dropPrefix? op.toList c.start).isSome).getD p
    else p
  | .name n false => n
  | _ => ""

end Cursor

/-! ### Steps -/

/-- What can be seen at a cursor. -/
inductive Look : Type → Type where
  /-- The current token. -/
  | token : Look Token
  /-- Whether a line ends before the current token. -/
  | newline : Look Bool
  /-- The operator that comes now. -/
  | operator : Look String
  /-- The comments that belong to the current token. -/
  | comments (isFirst : Bool) : Look (List Comment)

/-- What is seen at a cursor. -/
def Look.at {α : Type} : Look α → Cursor → α
  | token, c => c.token
  | newline, c => c.newline
  | operator, c => c.operator
  | comments isFirst, c => c.comments isFirst

/-- Stretches of text that are read at a cursor, but are no sequences of tokens. -/
inductive Scan : Type → Type where
  /-- An operator, which may be a part of the current token or more than it. -/
  | operator (op : String) : Scan Unit
  /-- A regular expression, whose opening slash comes now. -/
  | regex : Scan Atom
  /-- The chunk of a template after the current token. -/
  | chunk : Scan (String × Bool × Bool)
  | markupWord : Scan String
  | quotedValue : Scan StringLit
  /-- The text after the current token up to the next bracket or brace. -/
  | markupText : Scan String

/-- What is read at a cursor, and the text after it. -/
def Scan.read {α : Type} : Scan α → Cursor → Option (α × List Char)
  | operator op, c => some ((), c.start.drop op.length)
  | regex, c => scanRegex (c.start.drop 1)
  | chunk, c => scanTemplate c.rest
  | markupWord, c => scanMarkupWord c.start
  | quotedValue, c => scanQuotedValue c.start
  | markupText, c => some (scanMarkupText c.rest)

/-- The elementary steps. -/
inductive Step : Type → Type 1 where
  | look {α : Type} (what : Look α) : Step α
  /-- Goes on to the next token. -/
  | advance : Step Unit
  /-- Goes past a stretch of text. -/
  | scan {α : Type} (what : Scan α) : Step α
  /-- Changes the number of open defaults. -/
  | count (change : Nat → Nat) : Step Unit

/-- What comes of reading at a cursor. -/
inductive Outcome (α : Type) where
  | done (a : α) (c : Cursor)
  /-- The text does not fit. -/
  | refused
  /-- Reading has been given up: the depth of nesting or the number of repetitions ran out. -/
  | unknown

/-- Takes a step. -/
def Step.take {α : Type} : Step α → Cursor → Outcome α
  | look what, c => .done (what.at c) c
  | advance, c => .done () c.advance
  | scan what, c =>
    match what.read c with
    | some (a, rest) => .done a (c.jump rest)
    | none => .refused
  | count change, c => .done () { c with openDefaults := change c.openDefaults }

/-! ### Readers -/

/-- The circumstances of a place in a text. -/
structure Circumstances where
  /-- Markup is read, and no casts in angle brackets. -/
  markup : Bool
  /-- The operator `in` may stand here. -/
  inAllowed : Bool := true
  /-- `yield` is an operator. -/
  inGenerator : Bool := false
  /-- `await` is an operator. -/
  inAsync : Bool := true
  /-- A function may be left here. -/
  inFunction : Bool := false
  /-- Declarations here only describe. -/
  isAmbient : Bool := false
  /-- A conditional type may not stand here unbracketed. -/
  noConditionalType : Bool := false
  /-- An arrow function here may have a result type. -/
  arrowTypeAllowed : Bool := true
  /-- Nothing has been read yet. -/
  isFirst : Bool := false

/-- What is read one level deeper. -/
inductive Rule : Type → Type where
  /-- A type. -/
  | type : Rule Unit
  /-- A binding pattern, without a type or a default. -/
  | pattern : Rule Pattern
  /-- An expression without a comma. -/
  | assignment : Rule Expr
  /-- An expression. -/
  | expression : Rule Expr
  /-- An expression whose operators bind tighter than a given strength. -/
  | operand (strength : Nat) : Rule Expr
  /-- The operand of a prefix operator. -/
  | unary : Rule Expr
  /-- An expression that a call or a member may follow, with those that do. -/
  | chain : Rule Expr
  /-- What follows `new`. -/
  | creation : Rule Expr
  /-- An element of markup whose opening bracket is the current token; the cursor stays at its last
  bracket. -/
  | markup : Rule Expr
  /-- A statement or a declaration. -/
  | statement : Rule Stmt

/-- Readers. -/
inductive Reads : Type → Type 1 where
  /-- Gives a result without reading. -/
  | give {α : Type} (a : α) : Reads α
  /-- Reads, and then reads what depends on the result. -/
  | andThen {α β : Type} (p : Reads α) (next : α → Reads β) : Reads β
  /-- Refuses every text. -/
  | refuse {α : Type} : Reads α
  /-- Gives the circumstances. -/
  | circumstances : Reads Circumstances
  /-- Reads under other circumstances. -/
  | within {α : Type} (change : Circumstances → Circumstances) (p : Reads α) : Reads α
  | step {α : Type} (s : Step α) : Reads α
  /-- Reads if possible, and stays in place otherwise. -/
  | attempt {α : Type} (p : Reads α) : Reads (Option α)
  /-- Looks ahead without moving; the text may not fit. -/
  | lookahead {α : Type} (otherwise : α) (p : Reads α) : Reads α
  /-- Extends a result step by step until a step adds nothing. -/
  | extend {α : Type} (next : α → Reads (Option α)) (a : α) : Reads α
  /-- Reads what a rule says. -/
  | nested {α : Type} (rule : Rule α) : Reads α

instance : Monad Reads where
  pure := .give
  bind := .andThen

instance : MonadReaderOf Circumstances Reads := ⟨.circumstances⟩

/-- How steps are taken. -/
structure Walk where
  take : {α : Type} → Step α → Cursor → Outcome α

/-- How rules are read. -/
structure Rules where
  read : {α : Type} → Rule α → Circumstances → Cursor → Outcome α

namespace Outcome

variable {α β : Type}

/-- Goes on from where reading came to. -/
def andThen (o : Outcome α) (next : α → Cursor → Outcome β) : Outcome β :=
  match o with
  | done a c => next a c
  | refused => .refused
  | unknown => .unknown

/-- Stays in place if the text did not fit. -/
def attempt (here : Cursor) : Outcome α → Outcome (Option α)
  | done a c => .done (some a) c
  | refused => .done none here
  | unknown => .unknown

/-- Stays in place, with some result if the text did not fit. -/
def lookahead (here : Cursor) (otherwise : α) : Outcome α → Outcome α
  | done a _ => .done a here
  | refused => .done otherwise here
  | unknown => .unknown

/-- Extends a result at most so many times. -/
def extend (next : α → Cursor → Outcome (Option α)) : Nat → α → Cursor → Outcome α
  | 0, _, _ => .unknown
  | fuel + 1, a, c =>
    (next a c).andThen fun
      | none, c => .done a c
      | some a, c => extend next fuel a c

end Outcome

/-- Carries a reader out. A result is extended at most as many times as there are characters
left. -/
def Reads.run (walk : Walk) (rules : Rules) {α : Type} :
    Reads α → Circumstances → Cursor → Outcome α
  | give a, _, c => .done a c
  | andThen p next, ctx, c =>
    (p.run walk rules ctx c).andThen fun a c => (next a).run walk rules ctx c
  | refuse, _, _ => .refused
  | circumstances, ctx, c => .done ctx c
  | within change p, ctx, c => p.run walk rules (change ctx) c
  | step s, _, c => walk.take s c
  | attempt p, ctx, c => (p.run walk rules ctx c).attempt c
  | lookahead otherwise p, ctx, c => (p.run walk rules ctx c).lookahead c otherwise
  | extend next a, ctx, c =>
    .extend (fun a c => (next a).run walk rules ctx c) (c.before.length + 1) a c
  | nested rule, ctx, c => rules.read rule ctx c

export Reads (refuse within attempt lookahead extend)

namespace Nested

/-- A type. -/
def type : Reads Unit := .nested .type

/-- A binding pattern, without a type or a default. -/
def pattern : Reads Pattern := .nested .pattern

/-- An expression without a comma. -/
def assignment : Reads Expr := .nested .assignment

/-- An expression. -/
def expression : Reads Expr := .nested .expression

/-- An expression whose operators bind tighter than a given strength. -/
def operand (strength : Nat) : Reads Expr := .nested (.operand strength)

/-- The operand of a prefix operator. -/
def unary : Reads Expr := .nested .unary

/-- An expression with the members and calls that follow it. -/
def chain : Reads Expr := .nested .chain

/-- What follows `new`. -/
def creation : Reads Expr := .nested .creation

/-- An element of markup. -/
def markup : Reads Expr := .nested .markup

/-- A statement or a declaration. -/
def statement : Reads Stmt := .nested .statement

end Nested

/-! ### Tokens -/

/-- Whether a test succeeds ahead, without moving. -/
def ahead (p : Reads Bool) : Reads Bool := lookahead false p

/-- Goes on to the next token. -/
def advance : Reads Unit := .step .advance

/-- The current token. -/
def token : Reads Token := .step (.look .token)

/-- Whether a line ends before the current token. -/
def afterNewline : Reads Bool := .step (.look .newline)

/-- Whether a token is a punctuator. -/
def Token.isPunct (text : String) : Token → Bool
  | .punct p => p == text
  | _ => false

/-- Whether a token is one of some punctuators. -/
def Token.isPunctOf (texts : List String) : Token → Bool
  | .punct p => texts.contains p
  | _ => false

/-- Whether a token is a word, written without escapes. -/
def Token.isWord (text : String) : Token → Bool
  | .name n false => n == text
  | _ => false

/-- Whether a token is one of some words, written without escapes. -/
def Token.isWordOf (texts : List String) : Token → Bool
  | .name n false => texts.contains n
  | _ => false

/-- Whether a punctuator comes now. -/
def atPunct (text : String) : Reads Bool := do return (← token).isPunct text

/-- Whether one of some punctuators comes now. -/
def atPunctOf (texts : List String) : Reads Bool := do return (← token).isPunctOf texts

/-- Whether a word comes now. -/
def atWord (text : String) : Reads Bool := do return (← token).isWord text

/-- Whether one of some words comes now. -/
def atWordOf (texts : List String) : Reads Bool := do return (← token).isWordOf texts

/-- Goes past a token of some sort, if it comes now. -/
def eatIf (p : Reads Bool) : Reads Bool := do
  if ← p then
    advance
    return true
  else return false

/-- Goes past a punctuator, if it comes now. -/
def eat (text : String) : Reads Bool := eatIf (atPunct text)

/-- Goes past a word, if it comes now. -/
def eatWord (text : String) : Reads Bool := eatIf (atWord text)

/-- Goes past a punctuator, if it comes now on the same line. -/
def eatOnLine (text : String) : Reads Bool :=
  eatIf do return (← atPunct text) && !(← afterNewline)

/-- Goes past a word, if it comes now on the same line. -/
def eatWordOnLine (text : String) : Reads Bool :=
  eatIf do return (← atWord text) && !(← afterNewline)

/-- Goes past a punctuator, which has to come now. -/
def expect (text : String) : Reads Unit := do
  if !(← eat text) then refuse

/-- Goes past a word, which has to come now. -/
def expectWord (text : String) : Reads Unit := do
  if !(← eatWord text) then refuse

/-- The text of a name or keyword, which has to come now. -/
def anyName : Reads String := do
  match ← token with
  | .name n _ =>
    advance
    return n
  | _ => refuse

/-- The words that are never identifiers. -/
def reservedWords : List String :=
  ["break", "case", "catch", "class", "const", "continue", "debugger", "default", "delete", "do",
   "else", "enum", "export", "extends", "false", "finally", "for", "function", "if", "import", "in",
   "instanceof", "new", "null", "return", "super", "switch", "this", "throw", "true", "try",
   "typeof", "var", "void", "while", "with"]

/-- Whether a name is an identifier at this place. -/
def isIdentifierHere (name : String) : Reads Bool := do
  let ctx ← read
  return !(reservedWords.contains name || (ctx.inGenerator && name == "yield") ||
    (ctx.inAsync && name == "await"))

/-- Whether an identifier comes now. -/
def atIdentifier : Reads Bool := do
  match ← token with
  | .name n _ => isIdentifierHere n
  | _ => return false

/-- The identifier that has to come now. -/
def identifier : Reads String := do
  if ← atIdentifier then anyName else refuse

/-- The string literal that has to come now. -/
def stringLit : Reads StringLit := do
  match ← token with
  | .string s =>
    advance
    return s
  | _ => refuse

/-- A condition that has to hold. -/
def require (b : Bool) : Reads Unit := if b then pure () else refuse

/-- Whether the token after the current one satisfies a test. -/
def nextIs (p : Reads Bool) : Reads Bool := ahead do
  advance
  p

/-- The end of a statement: a semicolon, or a place where one may be left out. -/
def semicolon : Reads Unit := do
  if ← eat ";" then return
  if (← atPunct "\x7d") || (← afterNewline) then return
  match ← token with
  | .eof => return
  | _ => refuse

/-- Whether a statement may end here. -/
def atSemicolon : Reads Bool := do
  return (← atPunctOf [";", "\x7d"]) || (← afterNewline) || (← token) == .eof

/-! ### Repetition -/

/-- Reads items until one says that there are no more. -/
def many {α : Type} (item : Reads (Option α)) : Reads (List α) :=
  List.reverse <$> extend (fun found => Option.map (· :: found) <$> item) []

/-- An item, unless a closing punctuator comes now; goes past that. -/
def itemUntil {α : Type} (close : String) (item : Reads α) : Reads (Option α) := do
  if ← eat close then return none
  return some (← item)

/-- Reads items up to a closing punctuator, and goes past that. -/
def manyUntil {α : Type} (close : String) (item : Reads α) : Reads (List α) :=
  many (itemUntil close item)

/-- An item with the comma after it, which may be left out before a closing punctuator. -/
def itemWithComma {α : Type} (close : String) (item : Reads α) : Reads α := do
  let a ← item
  if !(← atPunct close) then expect ","
  return a

/-- Reads items with commas between them up to a closing punctuator, and goes past that. A comma may
stand before it. -/
def separated {α : Type} (close : String) (item : Reads α) : Reads (List α) :=
  manyUntil close (itemWithComma close item)

/-- Reads one or more items with a separator between them. -/
def sepBy {α : Type} (separator : String) (item : Reads α) : Reads (List α) := do
  let first ← item
  let more ← many do
    if ← eat separator then return some (← item)
    return none
  return first :: more

/-- A substitution of a template with the chunk after it, and whether that is the last chunk. -/
def substitution {α : Type} (isTagged : Bool) (value : Reads α) : Reads ((α × String) × Bool) := do
  let v ← value
  require (← atPunct "\x7d")
  let (chunk, valid, isLast) ← .step (.scan .chunk)
  require (valid || isTagged)
  return ((v, chunk), isLast)

/-- The substitutions of a template up to its last chunk, the last one first. -/
def substitutions {α : Type} (isTagged : Bool) (value : Reads α) (isLast : Bool) :
    Reads (List (α × String) × Bool) :=
  extend (fun (found, isLast) => do
    if isLast then return none
    let (next, isLast) ← substitution isTagged value
    return some (next :: found, isLast)) ([], isLast)

/-- A template that begins now: its first chunk, and its substitutions. Only a tagged template may
hold escapes that are not valid. -/
def template {α : Type} (isTagged : Bool) (value : Reads α) :
    Reads (String × List (α × String)) := do
  match ← token with
  | .template chunk valid isLast =>
    require (valid || isTagged)
    advance
    let (found, _) ← substitutions isTagged value isLast
    return (chunk, found.reverse)
  | _ => refuse

/-- Whether a template begins now. -/
def atTemplate : Reads Bool := do
  match ← token with
  | .template _ _ _ => return true
  | _ => return false

end PlaceholderExports.Syntax
