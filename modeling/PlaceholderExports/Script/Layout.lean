import PlaceholderExports.Script.Constant
import PlaceholderExports.Script.Literal
import PlaceholderExports.Syntax.Grammar.Expression
import PlaceholderExports.Syntax.Reduction

/-!
# Layout of scripts

How the pieces of a script are put together: parentheses where an expression stands as an operand of
something stronger, one statement on a line, a tab for each level of nesting.

* `Place`: where an expression stands.
* `block`, `commas`, `items`: bracketed lists.
-/

namespace PlaceholderExports.Script

open PlaceholderExports.Syntax

/-! ### Places -/

/-- What an expression is the beginning of. -/
inductive Start where
  | nothing
  | statement
  | arrowBody
  | defaultExport
deriving DecidableEq, Repr

/-- Where an expression stands. -/
structure Place where
  /-- The level of nesting. -/
  depth : Nat := 0
  /-- An expression that binds this strongly or less is parenthesised. -/
  strength : Nat := 0
  start : Start := .nothing
  /-- A call would be taken for the arguments of `new`. -/
  noCall : Bool := false
  /-- The operator `in` would be taken for that of a loop. -/
  noIn : Bool := false
  /-- What follows would become a part of an optional chain. -/
  endsChain : Bool := false
  /-- An enumeration, with the members that are written through it. -/
  members : Option (String × List String) := none

/-- The strength of two expressions with a comma between them. -/
def commaStrength : Nat := 1

/-- The strength of a `yield` with its value. -/
def yieldStrength : Nat := 3

/-- The strength of an assignment. -/
def assignStrength : Nat := 4

/-- The strength of a conditional expression. -/
def conditionalStrength : Nat := 5

/-- The strength of a power. -/
def powerStrength : Nat := 17

/-- The strength of an operator in front of its operand. -/
def unaryStrength : Nat := 18

/-- The strength of an operator behind its operand. -/
def postfixStrength : Nat := 19

/-- The strength of a `new` without arguments. -/
def newStrength : Nat := 20

/-- The strength of a call. -/
def callStrength : Nat := 21

/-- The strength of an operator of two operands. -/
def operatorStrength (op : String) : Nat := (Grammar.binaryOperators.lookup op).getD 0 + 5

namespace Place

/-- The place of a part that does not begin the expression. -/
def inner (p : Place) (strength : Nat) : Place :=
  { p with strength, start := .nothing, noCall := false, endsChain := false }

/-- The place of the part that begins the expression. -/
def first (p : Place) (strength : Nat) : Place :=
  { p with strength, noCall := false, endsChain := false }

/-- The place of what a member or call follows. -/
def object (p : Place) : Place := { p with strength := postfixStrength, endsChain := true }

/-- The place of a part in brackets of its own. -/
def bracketed (p : Place) (strength : Nat) : Place := { p.inner strength with noIn := false }

/-- The same place one level deeper. -/
def deeper (p : Place) : Place := { p with depth := p.depth + 1 }

end Place

/-! ### Pieces -/

/-- A text in parentheses, if they are needed. -/
def parens (needed : Bool) (text : String) : String := if needed then "(" ++ text ++ ")" else text

/-- The start of a line. -/
def indent (depth : Nat) : String := String.ofList (List.replicate depth '\t')

/-- Texts with commas between them. -/
def commas (texts : List String) : String := ", ".intercalate texts

/-- A block with statements that end their lines, or an empty one. -/
def block (depth : Nat) (lines : String) : String :=
  if lines.isEmpty then "\x7b\x7d" else "\x7b\n" ++ lines ++ indent depth ++ "\x7d"

/-- A line of its own. -/
def line (depth : Nat) (text : String) : String := indent depth ++ text ++ "\n"

/-- Texts on lines of their own, with commas between them and possibly something at the end. -/
def stacked (depth : Nat) (texts : List String) (close : String := "") : String :=
  "\n" ++ ",\n".intercalate (texts.map (indent (depth + 1) ++ ·)) ++ close ++ "\n" ++ indent depth

/-- An object literal: one member stands on the line, more stand on lines of their own. -/
def objectText (depth : Nat) : List String → String
  | [] => "\x7b\x7d"
  | [text] => "\x7b " ++ text ++ " \x7d"
  | texts => "\x7b" ++ stacked depth texts ++ "\x7d"

/-- An array literal: at most two items stand on the line. A hole at the end has a comma after
it. -/
def arrayText (depth : Nat) (texts : List String) (endsInHole : Bool) : String :=
  let close := if endsInHole then "," else ""
  if texts.length ≤ 2 then "[" ++ commas texts ++ close ++ "]"
  else "[" ++ stacked depth texts close ++ "]"

/-- Whether the last of some items is a hole. -/
def endsInHole (items : List Expr) : Bool :=
  match items.getLast? with
  | some (.atom .hole) => true
  | _ => false

/-- A template: chunks with values between them. -/
def templateText : List String → List String → String
  | chunk :: chunks, value :: values =>
    chunk ++ "$\x7b" ++ value ++ "\x7d" ++ templateText chunks values
  | chunks, _ => String.join chunks

/-- A template in its quotes. -/
def quotedTemplate (chunks values : List String) : String :=
  "\x60" ++ templateText chunks values ++ "\x60"

/-- A word with a space after it, if it is there. -/
def word (present : Bool) (text : String) : String := if present then text ++ " " else ""

/-- Some text, if it is there. -/
def mark (present : Bool) (text : String) : String := if present then text else ""

/-- An expression without parts. -/
def atomText : Atom → String
  | .this => "this"
  | .super => "super"
  | .null => "null"
  | .bool value => if value then "true" else "false"
  | .number value => numberText value
  | .bigint digits => digits ++ "n"
  | .string value => stringText value
  | .regex body flags => "/" ++ body ++ "/" ++ flags
  | .privateName id => "#" ++ id
  | .importMeta => "import.meta"
  | .newTarget => "new.target"
  | .hole => ""
  | .markupText raw => raw

/-- A known value. -/
def constantText : Constant → String
  | .number digits exponent =>
    let text := numberText ⟨digits.natAbs, exponent⟩
    if digits < 0 then "-" ++ text else text
  | .string value => stringText value

/-- A name as a string literal. -/
def nameText (name : String) : String := stringText { value := name, raw := name }

/-- An operator before its operand. A sign does not touch the same sign. -/
def unaryText (op operand : String) : String :=
  if op == "typeof" || op == "void" || op == "delete" then op ++ " " ++ operand
  else if operand.startsWith op && (op == "+" || op == "-") then op ++ " " ++ operand
  else op ++ operand

/-- A member of an object. A whole number keeps its distance from the point. -/
def accessText (object : String) (field : Access) (optional : Bool) : String :=
  let name := match field with
    | .field id => id
    | .privateField id => "#" ++ id
  let gap := if !optional && object.toList.all Char.isDigit then " " else ""
  object ++ gap ++ (if optional then "?." else ".") ++ name

/-- A name of an import or export. -/
def moduleNameText : ModuleName → String
  | .identifier name => name
  | .string s => stringText s

/-- An element of a clause. -/
def specifierText (first second : ModuleName) : String :=
  if first.text = second.text then moduleNameText first
  else moduleNameText first ++ " as " ++ moduleNameText second

/-- The names of a clause in braces. -/
def clauseText (names : List String) : String :=
  if names.isEmpty then "\x7b\x7d" else "\x7b " ++ commas names ++ " \x7d"

/-- The module of an import or export, with its attributes. -/
def sourceText (s : ModuleSource) : String :=
  let attributes := s.attributes.map fun (k, v) => moduleNameText k ++ ": " ++ stringText v
  stringText s.specifier ++
    (if attributes.isEmpty then "" else " with " ++ clauseText attributes)

/-- What an import binds: a default, everything, or the names of a clause. -/
def bindingsText (bindings : List ImportBinding) : String :=
  let plain := bindings.filterMap fun b => match b with
    | .default name => some name
    | .all name => some ("* as " ++ name)
    | .named _ _ _ => none
  let named := bindings.filterMap fun b => match b with
    | .named imported name _ => some (specifierText imported (.identifier name))
    | _ => none
  commas (plain ++ if named.isEmpty then [] else [clauseText named])

/-- An import or export, without what stands only for types. -/
def linkageText : Linkage → String
  | .importAlias name _ (.require s) =>
    "const " ++ name ++ " = require(" ++ stringText s ++ ");"
  | .importAlias name _ (.entity names) => "var " ++ name ++ " = " ++ ".".intercalate names ++ ";"
  | .importNames _ none source => "import " ++ sourceText source ++ ";"
  | .importNames _ (some []) source => "import " ++ sourceText source ++ ";"
  | .importNames _ (some bindings) source =>
    "import " ++ bindingsText bindings ++ " from " ++ sourceText source ++ ";"
  | .exportNames _ specifiers source? =>
    "export " ++ clauseText (specifiers.map fun s => specifierText s.inner s.outer) ++
      (source?.map fun s => " from " ++ sourceText s).getD "" ++ ";"
  | .exportAll _ alias? source =>
    "export *" ++ (alias?.map fun a => " as " ++ moduleNameText a).getD "" ++ " from " ++
      sourceText source ++ ";"
  | .exportAsNamespace _ => ""

/-- The word of a variable declaration. -/
def kindText : VariableKind → String
  | .var => "var"
  | .let => "let"
  | .const => "const"
  | .using => "using"
  | .awaitUsing => "await using"

/-! ### What leaves no trace -/

mutual

/-- Whether a statement only describes types. -/
def isErased : Stmt → Bool
  | .ambient _ | .typeAlias _ | .interfaceDecl _ => true
  | .function f => f.isSignature
  | .namespaceDecl .global _ => true
  | .namespaceDecl _ body => areErased body
  | .linkage (.importAlias _ typeOnly _) | .linkage (.importNames typeOnly _ _)
  | .linkage (.exportNames typeOnly _ _) | .linkage (.exportAll typeOnly _ _) => typeOnly
  | .linkage (.exportAsNamespace _) => true
  | .exportDecl d | .exportDefault d | .commented _ d => isErased d
  | _ => false

/-- Whether some statements only describe types. -/
def areErased : List Stmt → Bool
  | [] => true
  | s :: ss => isErased s && areErased ss

end

/-- The text of a comment. The lines of a block begin at the indentation. -/
def commentText (depth : Nat) (c : Comment) : String :=
  if c.isLine then c.text
  else
    let lines := (c.text.splitOn "\n").map fun l => l.trimAsciiStart.toString
    ("\n" ++ indent depth).intercalate lines

/-- Comments before a statement. -/
def commentsText (depth : Nat) : List Comment → String
  | [] => ""
  | c :: cs =>
    let next := "\n" ++ indent depth
    let gap :=
      match cs with
      | [] => if c.endsLine then next else " "
      | d :: _ => if d.startsLine then next else ""
    commentText depth c ++ gap ++ commentsText depth cs

/-- A text without its last character. -/
def dropEnd (text : String) : String := String.ofList text.toList.dropLast

/-- An expression without the parentheses and types around it. -/
def bare : Expr → Expr
  | .typed e | .grouped e => bare e
  | e => e

/-- Whether an operand must stand in parentheses next to an operator, however tight it binds: a
logical operand of `??`, and one with an operator in front as the base of a power. -/
def clashes (op : String) (isLeft : Bool) (operand : Expr) : Bool :=
  match bare operand with
  | .binary inner _ _ => op == "??" && (inner == "||" || inner == "&&")
  | .unary _ _ | .await _ => op == "**" && isLeft
  | _ => false

/-- Whether an expression is an optional chain, so that what follows would become a part of it. -/
def isOptionalChain : Expr → Bool
  | .call f _ optional => optional || isOptionalChain f
  | .access o _ optional => optional || isOptionalChain o
  | .index o _ optional => optional || isOptionalChain o
  | .typed e | .grouped e => isOptionalChain e
  | _ => false

/-- The names of the parameters that declare fields. -/
def fieldNames (params : List Pattern) : List String :=
  params.flatMap fun p => match p with
    | .fieldParam target => target.boundNames
    | .decorated _ (.fieldParam target) => target.boundNames
    | _ => []

end PlaceholderExports.Script
