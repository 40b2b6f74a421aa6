import PlaceholderExports.Syntax.Grammar.Linkage
import PlaceholderExports.Syntax.Grammar.Markup

/-!
# Reading module texts

`Rules.level n` are the rules for what is nested at most `n` deep. Every nesting costs a character,
so the rules at a depth beyond the length of a text read all of it.

* `Module.ofText?`: the tree of a module text, if it is one.
-/

namespace PlaceholderExports.Syntax

/-- The reader of a rule. -/
def Rule.reader {α : Type} : Rule α → Reads α
  | type => Grammar.type
  | pattern => Grammar.pattern
  | assignment => Grammar.assignment
  | expression => Grammar.expression
  | operand strength => Grammar.operand strength
  | unary => Grammar.unary
  | chain => Grammar.chain
  | creation => Grammar.newTail
  | markup => Grammar.markup
  | statement => Grammar.statement

/-- The rules for what is nested up to a depth. -/
def Rules.level (walk : Walk) : Nat → Rules
  | 0 => ⟨fun _ _ _ => .unknown⟩
  | n + 1 => ⟨fun rule => rule.reader.run walk (level walk n)⟩

/-- The first line of a text, without its end, if it names an interpreter, and the text after it. -/
def takeHashbang : List Char → Option String × List Char
  | '#' :: '!' :: rest =>
    (some (String.ofList (rest.takeWhile (!isLineBreak ·))), rest.dropWhile (!isLineBreak ·))
  | text => (none, text)

/-- The string of a statement that is nothing else. -/
def stringOf? : Stmt → Option StringLit
  | .expr (.atom (.string s)) | .commented _ (.expr (.atom (.string s))) => some s
  | _ => none

/-- The strings at the start of a list of statements that are directives, and the other
statements. -/
def takeDirectives : List Stmt → List StringLit × List Stmt
  | [] => ([], [])
  | s :: rest =>
    match stringOf? s with
    | some directive =>
      let (ds, rest) := takeDirectives rest
      (directive :: ds, rest)
    | none => ([], s :: rest)

/-- The next statement before those found so far, the last one first, unless the text ends. -/
def nextStatement (found : List Stmt) : Reads (Option (List Stmt)) := do
  match ← token with
  | .eof => return none
  | _ =>
    let s ← within (fun ctx => { ctx with isFirst := found.isEmpty }) Nested.statement
    return some (s :: found)

/-- The statements up to the end of a text. -/
def topLevel : Reads (List Stmt) := List.reverse <$> extend nextStatement []

/-- The tree of a module text, with or without markup, if it is one. -/
def Module.ofText? (markup : Bool) (text : String) : Option Module :=
  let (hashbang?, rest) := takeHashbang text.toList
  match topLevel.run ⟨Step.take⟩ (.level ⟨Step.take⟩ (rest.length + 1)) { markup }
      (.ofText rest true 0) with
  | .done body c =>
    if c.openDefaults = 0 then
      let (directives, body) := takeDirectives body
      some { hashbang?, directives, body }
    else none
  | _ => none

end PlaceholderExports.Syntax
