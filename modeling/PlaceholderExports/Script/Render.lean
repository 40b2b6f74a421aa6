import PlaceholderExports.Script.Layout
import PlaceholderExports.Syntax.Scope

/-!
# Scripts of trees

The script of a tree, types left out. Enumerations and namespaces become functions that fill an
object; elements of markup stay as they are.

* `Expr.text`: an expression at a place.
* `Stmt.text`: a statement without the start and the end of its line.
* `bodyText`: statements on lines of their own.
-/

namespace PlaceholderExports.Script

open PlaceholderExports.Syntax

/-- The lines of a function body, with its field assignments at the start or after the call of the
constructor above. -/
def insertAssignments (assignments : String) : List (Bool × String) → String
  | lines =>
    let before := lines.takeWhile fun l => !l.1
    match lines.dropWhile fun l => !l.1 with
    | [] => assignments ++ String.join (lines.map (·.2))
    | call :: rest =>
      String.join (before.map (·.2)) ++ call.2 ++ assignments ++ String.join (rest.map (·.2))

/-- Whether a statement calls the constructor above. -/
def callsSuper : Stmt → Bool
  | .expr (.call (.atom .super) _ _) => true
  | .commented _ s => callsSuper s
  | _ => false

/-- The assignments of the parameters that declare fields. -/
def fieldAssignments (depth : Nat) (params : List Pattern) : String :=
  String.join ((fieldNames params).map fun n => line depth ("this." ++ n ++ " = " ++ n ++ ";"))

/-- The mark of a call without effects. -/
def pureMark : String := "/* @__PURE__ */ "

/-- Whether the value of a member of an enumeration may have effects. -/
def mayHaveEffects (members : List Binding) : Bool :=
  members.any fun m => match m.value? with
    | some (.call _ _ _) | some (.new _ _) => true
    | _ => false

/-- The value of a member of an enumeration without a value of its own. -/
def impliedValue : Members → Option Constant
  | [] => some (.whole 0)
  | (_, value?) :: _ => value?.bind Constant.next

/-- The text of such a value. One after a member with an unknown value is computed from that. -/
def impliedText (enumeration : String) (known : Members) : String :=
  match impliedValue known, known with
  | some c, _ => constantText c
  | none, (name, _) :: _ => "1 + " ++ enumeration ++ "[" ++ nameText name ++ "]"
  | none, [] => "0"

/-- The line of a member of an enumeration. A member that is no string can be looked up by its
value. -/
def memberLine (enumeration name value : String) (isString : Bool) : String :=
  let entry := enumeration ++ "[" ++ nameText name ++ "] = " ++ value
  if isString then entry ++ ";"
  else enumeration ++ "[" ++ entry ++ "] = " ++ nameText name ++ ";"

/-- An enumeration as a function that fills an object: a new one, or the one that an earlier
declaration has filled (`isDeclared`). At the top of the module (`isTop`) the variable may hold an
object already. -/
def enumText (depth : Nat) (name lines : String) (exported isDeclared hasEffects : Bool) :
    String :=
  let isTop := depth = 0 && !exported
  let object := if isTop || isDeclared then name ++ " || \x7b\x7d" else "\x7b\x7d"
  let keyword :=
    if isDeclared then "" else if exported then "export let " else if isTop then "var " else "let "
  keyword ++ name ++ " = " ++ mark (!hasEffects) pureMark ++ "function(" ++ name ++ ") \x7b\n" ++
    lines ++ line (depth + 1) ("return " ++ name ++ ";") ++
    indent depth ++ "\x7d(" ++ object ++ ");"

/-- The name of the object inside a namespace. -/
def ownerName (name : String) : String := "_" ++ name

/-- A namespace as a function that fills an object, which is a member of the object around it. -/
def namespaceText (depth : Nat) (owner? : Option String) (name lines : String)
    (exported isDeclared : Bool) : String :=
  let object :=
    match owner? with
    | some owner =>
      let path := owner ++ "." ++ name
      name ++ " = " ++ path ++ " || (" ++ path ++ " = \x7b\x7d)"
    | none => name ++ " = \x7b\x7d"
  mark (!isDeclared) (mark exported "export " ++ "let " ++ name ++ ";\n" ++ indent depth) ++
    "(function(" ++ ownerName name ++ ") \x7b\n" ++ lines ++ indent depth ++ "\x7d)(" ++ name ++
    " || (" ++ object ++ "));"

/-- Namespaces one in another, around some lines that stand `names.length` levels deeper. -/
def nestedNamespaces (depth : Nat) (owner? : Option String) (exported isDeclared : Bool)
    (lines : String) : List String → String
  | [] => lines
  | [name] => namespaceText depth owner? name lines exported isDeclared
  | name :: more =>
    let inner := nestedNamespaces (depth + 1) (some (ownerName name)) false false lines more
    namespaceText depth owner? name (line (depth + 1) inner) exported isDeclared

/-- Assigns names to the object of a namespace. -/
def ownerAssignments (depth : Nat) (owner : String) (names : List String) : String :=
  String.join (names.map fun n => "\n" ++ indent depth ++ owner ++ "." ++ n ++ " = " ++ n ++ ";")

/-- What surrounds a statement: the level of nesting, the names declared before it in its block, and
the object of the namespace that it stands in. -/
structure Spot where
  depth : Nat := 0
  declared : List String := []
  owner? : Option String := none
  /-- The statement is exported. -/
  exported : Bool := false

/-- Whether a declaration is exported from the module. -/
def Spot.marksDeclaration (s : Spot) : Bool := s.exported && s.owner?.isNone

/-- The inside of a block or function. -/
def Spot.inside (s : Spot) : Spot := { depth := s.depth + 1 }

/-- The place of an expression in a statement. -/
def Spot.place (s : Spot) (strength : Nat := 0) (start : Start := .nothing) : Place :=
  { depth := s.depth, strength, start }

/-- Whether a declaration becomes something else, which takes its own mark. -/
def isReplaced : Stmt → Bool
  | .enumDecl _ _ | .namespaceDecl _ _ => true
  | _ => false

/-- What stands before an exported declaration. -/
def exportMark (s : Spot) (d : Stmt) : String :=
  if s.owner?.isSome || isReplaced d then "" else "export "

/-- What stands after an exported declaration in a namespace: its names go into the object, if they
are not there yet. -/
def exportEnd (s : Spot) (d : Stmt) : String :=
  match s.owner?, d with
  | some _, .namespaceDecl _ _ => ""
  | some owner, .variableDecl _ bs =>
    ownerAssignments s.depth owner
      (bs.flatMap fun b => match b.target with
        | .name _ => []
        | target => target.boundNames)
  | some owner, d => ownerAssignments s.depth owner d.blockNames
  | none, _ => ""

/-- The words before the key of a method. -/
def methodMarks (kind : MethodKind) (isStatic isAsync isGenerator : Bool) : String :=
  word isStatic "static" ++ word (kind == .getter) "get" ++ word (kind == .setter) "set" ++
    word isAsync "async" ++ mark isGenerator "*"

/-- A substatement after the head of its statement. -/
def afterHead (s : Stmt) (text : String) : String :=
  if isErased s then ";"
  else match s with
    | .empty => ";"
    | _ => " " ++ text

/-- A name at a place. -/
def nameAt (p : Place) (id : String) : String :=
  match p.members with
  | some (owner, names) => if names.contains id then owner ++ "." ++ id else id
  | none => id

/-- A child of an element of markup: text and elements stand for themselves, other expressions in
braces. -/
def childText (child : Expr) (text : String) : String :=
  match child with
  | .atom (.markupText _) | .markup _ _ _ => text
  | _ => "\x7b" ++ text ++ "\x7d"

/-- The parameters and the body of a function, with an arrow between them or without. -/
def tailText (depth : Nat) (isArrow : Bool) (params : List Pattern) (paramTexts : List String)
    (lines : List (Bool × String)) : String :=
  let assignments := fieldAssignments (depth + 1) params
  "(" ++ commas paramTexts ++ ") " ++ mark isArrow "=> " ++
    block depth
      (if assignments.isEmpty then String.join (lines.map (·.2))
        else insertAssignments assignments lines)

/-- Whether a statement is a choice, whose `else` would be ambiguous. -/
def isChoice : Stmt → Bool
  | .ifThen _ _ | .ifElse _ _ _ => true
  | .commented _ s => isChoice s
  | _ => false

/-- What separates a substatement from the word after it. -/
def gapAfter (depth : Nat) : Stmt → String
  | .block _ => " "
  | _ => "\n" ++ indent depth

mutual

/-- An expression at a place. -/
def exprText (p : Place) : Expr → String
  | .name id => nameAt p id
  | .atom a => atomText a
  | .template chunks values => quotedTemplate chunks (exprTexts (p.bracketed 0) values)
  | .tagged tag chunks values =>
    exprText { p with strength := postfixStrength } tag ++
      quotedTemplate chunks (exprTexts (p.bracketed 0) values)
  | .array items =>
    let inside := p.bracketed commaStrength
    arrayText p.depth (exprTexts (if items.length ≤ 2 then inside else inside.deeper) items)
      (endsInHole items)
  | .spread e => "..." ++ exprText (p.inner commaStrength) e
  | .object members =>
    let inside := p.bracketed commaStrength
    parens (p.start == .statement || p.start == .arrowBody)
      (objectText p.depth
        (memberTexts (if members.length ≤ 1 then inside else inside.deeper) members))
  | .function f =>
    parens (p.start == .statement || p.start == .defaultExport)
      (functionText p.depth f)
  | .arrow f =>
    parens (p.strength ≥ assignStrength)
      (word f.isAsync "async" ++ functionTail p.depth true f)
  | .arrowValue f value =>
    parens (p.strength ≥ assignStrength)
      (word f.isAsync "async" ++ functionHead p.depth f ++ " => " ++
        exprText { p.inner commaStrength with start := .arrowBody } value)
  | .classExpr c =>
    parens (p.start == .statement || p.start == .defaultExport) (classText p.depth c)
  | .unary op e =>
    parens (p.strength ≥ unaryStrength) (unaryText op (exprText (p.inner (unaryStrength - 1)) e))
  | .update op true e =>
    parens (p.strength ≥ unaryStrength) (op ++ exprText (p.inner (unaryStrength - 1)) e)
  | .update op false e =>
    parens (p.strength ≥ postfixStrength) (exprText (p.first (postfixStrength - 1)) e ++ op)
  | .binary op left right =>
    let strength := operatorStrength op
    let needed := p.strength ≥ strength || (op == "in" && p.noIn)
    let p := if needed then { p with noIn := false, start := Start.nothing } else p
    let rightwards := op == "**"
    let leftStrength :=
      if clashes op true left then callStrength else if rightwards then strength else strength - 1
    let rightStrength :=
      if clashes op false right then callStrength
      else if rightwards then strength - 1 else strength
    parens needed
      (exprText (p.first leftStrength) left ++ " " ++ op ++ " " ++
        exprText (p.inner rightStrength) right)
  | .assign op target value =>
    let isPattern := match target with
      | .object _ => p.start == .statement || p.start == .arrowBody
      | _ => false
    let needed := p.strength ≥ assignStrength || isPattern
    let p := if needed then { p with start := Start.nothing } else p
    parens needed
      (exprText (p.first postfixStrength) target ++ " " ++ op ++ " " ++
        exprText (p.inner commaStrength) value)
  | .conditional test yes no =>
    let needed := p.strength ≥ conditionalStrength
    let p := if needed then { p with start := Start.nothing } else p
    parens needed
      (exprText (p.first conditionalStrength) test ++ " ? " ++
        exprText (p.bracketed yieldStrength) yes ++ " : " ++ exprText (p.inner yieldStrength) no)
  | .call callee args optional =>
    let needed := p.strength ≥ newStrength || p.noCall
    let p := if needed then { p with start := Start.nothing, noCall := false } else p
    parens needed
      (exprText p.object callee ++ mark optional "?." ++ "(" ++
        commas (exprTexts (p.bracketed commaStrength) args) ++ ")")
  | .new callee args =>
    parens (p.strength ≥ callStrength)
      ("new " ++ exprText { p.inner newStrength with noCall := true } callee ++ "(" ++
        commas (exprTexts (p.bracketed commaStrength) args) ++ ")")
  | .access object field optional => accessText (exprText p.object object) field optional
  | .index object k optional =>
    exprText p.object object ++ mark optional "?." ++ "[" ++ exprText (p.bracketed 0) k ++ "]"
  | .importCall args =>
    parens (p.strength ≥ newStrength || p.noCall)
      ("import(" ++ commas (exprTexts (p.bracketed commaStrength) args) ++ ")")
  | .sequence items =>
    parens (p.strength ≥ commaStrength) (commas (exprTexts (p.inner commaStrength) items))
  | .yield delegate value? =>
    parens (p.strength ≥ assignStrength)
      ("yield" ++ mark delegate "*" ++ optionText (p.inner yieldStrength) " " value?)
  | .await e =>
    parens (p.strength ≥ unaryStrength) ("await " ++ exprText (p.inner powerStrength) e)
  | .grouped e =>
    if p.endsChain && isOptionalChain e then "(" ++ exprText (p.bracketed 0) e ++ ")"
    else exprText p e
  | .typed e => exprText p e
  | .markup tag? attributes children =>
    let tag := tag?.getD ""
    let head := "<" ++ tag ++
      String.join ((attributeTexts (p.bracketed 0) attributes).map (" " ++ ·))
    match tag?, children with
    | some _, [] => head ++ " />"
    | _, children =>
      head ++ ">" ++ String.join (childTexts (p.bracketed 0) children) ++ "</" ++ tag ++ ">"

/-- Some expressions, each at the same place. -/
def exprTexts (p : Place) : List Expr → List String
  | [] => []
  | e :: es => exprText p e :: exprTexts p es

/-- An expression after a separator, if there is one. -/
def optionText (p : Place) (separator : String) : Option Expr → String
  | none => ""
  | some e => separator ++ exprText p e

/-- The children of an element of markup. -/
def childTexts (p : Place) : List Expr → List String
  | [] => []
  | e :: es => childText e (exprText p e) :: childTexts p es

/-- The attributes of an element of markup. -/
def attributeTexts (p : Place) : List Member → List String
  | [] => []
  | .field (.identifier name) (.atom (.string s)) :: ms =>
    let quote := if s.raw.contains '"' then "'" else "\""
    (name ++ "=" ++ quote ++ s.raw ++ quote) :: attributeTexts p ms
  | .field k e :: ms =>
    (keyText p k ++ "=\x7b" ++ exprText p e ++ "\x7d") :: attributeTexts p ms
  | m :: ms => ("\x7b" ++ memberText p m ++ "\x7d") :: attributeTexts p ms

/-- The key of a property. -/
def keyText (p : Place) : Key → String
  | .identifier name => name
  | .privateName name => "#" ++ name
  | .string s => stringText s
  | .number n => numberText n
  | .bigint digits => digits ++ "n"
  | .computed e => "[" ++ exprText (p.bracketed commaStrength) e ++ "]"

/-- A member of an object literal. -/
def memberText (p : Place) : Member → String
  | .field k value =>
    let k := keyText p k
    let value := exprText (p.bracketed commaStrength) value
    if k == value && k != "__proto__" then k else k ++ ": " ++ value
  | .shorthand name =>
    let value := nameAt p name
    if name == value then name else name ++ ": " ++ value
  | .defaulted name value => name ++ " = " ++ exprText (p.bracketed commaStrength) value
  | .method kind k f =>
    methodMarks kind false f.isAsync f.isGenerator ++ keyText p k ++ functionTail p.depth false f
  | .spread value => "..." ++ exprText (p.bracketed commaStrength) value

/-- The members of an object literal. -/
def memberTexts (p : Place) : List Member → List String
  | [] => []
  | m :: ms => memberText p m :: memberTexts p ms

/-- The parameters of a function. -/
def functionHead (depth : Nat) : Function → String
  | ⟨_, _, _, params, _, _⟩ => "(" ++ commas (patternTexts depth params) ++ ")"

/-- A function from its parameters on. -/
def functionTail (depth : Nat) (isArrow : Bool) : Function → String
  | ⟨_, _, _, params, _, body⟩ =>
    tailText depth isArrow params (patternTexts depth params)
      (bodyLines { depth := depth + 1 } body)

/-- A function with its name, if it has one. -/
def functionText (depth : Nat) : Function → String
  | ⟨name?, isAsync, isGenerator, params, _, body⟩ =>
    word isAsync "async" ++ "function" ++ mark isGenerator "*" ++
      ((name?.map (" " ++ ·)).getD "") ++
      tailText depth false params (patternTexts depth params)
        (bodyLines { depth := depth + 1 } body)

/-- A binding pattern. -/
def patternText (depth : Nat) : Pattern → String
  | .name id => id
  | .object fields =>
    if fields.isEmpty then "\x7b\x7d" else "\x7b " ++ commas (patternTexts depth fields) ++ " \x7d"
  | .array items => "[" ++ commas (patternTexts depth items) ++ "]"
  | .withDefault target value =>
    patternText depth target ++ " = " ++ exprText { depth, strength := commaStrength } value
  | .field k target => keyText { depth } k ++ ": " ++ patternText depth target
  | .shorthand target => patternText depth target
  | .rest target => "..." ++ patternText depth target
  | .hole => ""
  | .fieldParam target => patternText depth target
  | .decorated ds target =>
    let decorators := exprTexts { depth, strength := postfixStrength } ds
    String.join (decorators.map fun d => "@" ++ d ++ " ") ++ patternText depth target

/-- Some binding patterns. -/
def patternTexts (depth : Nat) : List Pattern → List String
  | [] => []
  | p :: ps => patternText depth p :: patternTexts depth ps

/-- A class with its name, if it has one. -/
def classText (depth : Nat) : ClassDef → String
  | ⟨name?, superclass?, decorators, members⟩ =>
    decoratorText depth decorators ++ "class" ++ ((name?.map (" " ++ ·)).getD "") ++
      optionText { depth, strength := postfixStrength } " extends " superclass? ++ " " ++
      block depth (classMemberTexts (depth + 1) members)

/-- Decorators, each with a space after it. -/
def decoratorText (depth : Nat) : List Expr → String
  | [] => ""
  | d :: ds =>
    "@" ++ exprText { depth, strength := postfixStrength } d ++ " " ++ decoratorText depth ds

/-- A member of a class on a line of its own; nothing if it only describes a type. -/
def classMemberText (depth : Nat) : ClassMember → String
  | .method kind k isStatic f ds =>
    if f.isSignature then ""
    else
      line depth (decoratorText depth ds ++ methodMarks kind isStatic f.isAsync f.isGenerator ++
        keyText { depth } k ++ functionTail depth false f)
  | .field k isStatic isAccessor value? ds =>
    line depth (decoratorText depth ds ++ word isStatic "static" ++ word isAccessor "accessor" ++
      keyText { depth } k ++ optionText { depth, strength := commaStrength } " = " value? ++ ";")
  | .declaredField _ | .indexSignature => ""
  | .staticBlock body =>
    line depth ("static " ++ block depth (bodyText { depth := depth + 1 } body))

/-- The members of a class. -/
def classMemberTexts (depth : Nat) : List ClassMember → String
  | [] => ""
  | m :: ms => classMemberText depth m ++ classMemberTexts depth ms

/-- A variable with its value. In a namespace the value goes into the object, too. -/
def bindingText (p : Place) (owner? : Option String) : Binding → String
  | ⟨target, value?⟩ =>
    let extra := match owner?, target with
      | some owner, .name n => " = " ++ owner ++ "." ++ n
      | _, _ => ""
    patternText p.depth target ++ extra ++ optionText p " = " value?

/-- Some variables with their values. -/
def bindingTexts (p : Place) (owner? : Option String) : List Binding → List String
  | [] => []
  | b :: bs => bindingText p owner? b :: bindingTexts p owner? bs

/-- The lines of the members of an enumeration after those that are known. -/
def memberLines (depth : Nat) (enumeration : String) (known : Members) : List Binding → String
  | [] => ""
  | ⟨target, none⟩ :: ms =>
    let name := target.boundNames.head?.getD ""
    line depth (memberLine enumeration name (impliedText enumeration known) false) ++
      memberLines depth enumeration ((name, impliedValue known) :: known) ms
  | ⟨target, some e⟩ :: ms =>
    let name := target.boundNames.head?.getD ""
    let value? := constant? enumeration known e
    let place : Place :=
      { depth, strength := commaStrength, members := some (enumeration, known.map (·.1)) }
    let text := (value?.map constantText).getD (exprText place e)
    let isString := match value?, e with
      | some (.string _), _ => true
      | _, _ => false
    line depth (memberLine enumeration name text isString) ++
      memberLines depth enumeration ((name, value?) :: known) ms

/-- A statement without the start and the end of its line. -/
def stmtText (s : Spot) : Stmt → String
  | .empty => ";"
  | .expr e => exprText (s.place 0 .statement) e ++ ";"
  | .block body => block s.depth (bodyText s.inside body)
  | .variableDecl kind bs =>
    kindText kind ++ " " ++
      commas (bindingTexts (s.place commaStrength) (if s.exported then s.owner? else none) bs) ++
      ";"
  | .function f => functionText s.depth f
  | .classDecl c => classText s.depth c
  | .ifThen test yes =>
    "if (" ++ exprText s.place test ++ ")" ++ afterHead yes (stmtText { depth := s.depth } yes)
  | .ifElse test yes no =>
    let first :=
      if isChoice yes then " " ++ block s.depth (line (s.depth + 1) (stmtText s.inside yes)) ++ " "
      else afterHead yes (stmtText { depth := s.depth } yes) ++ gapAfter s.depth yes
    "if (" ++ exprText s.place test ++ ")" ++ first ++ "else" ++
      afterHead no (stmtText { depth := s.depth } no)
  | .forLoop head test? update? body =>
    let head := match head with
      | .empty => ";"
      | .variableDecl kind bs =>
        kindText kind ++ " " ++
          commas (bindingTexts { s.place commaStrength with noIn := true } none bs) ++ ";"
      | .expr e => exprText { s.place 0 .statement with noIn := true } e ++ ";"
      | _ => ";"
    "for (" ++ head ++ optionText s.place " " test? ++ ";" ++ optionText s.place " " update? ++
      ")" ++ afterHead body (stmtText { depth := s.depth } body)
  | .forIn head e body =>
    "for (" ++ headText s head ++ " in " ++ exprText s.place e ++ ")" ++
      afterHead body (stmtText { depth := s.depth } body)
  | .forOf isAwait head e body =>
    "for " ++ word isAwait "await" ++ "(" ++ headText s head ++ " of " ++
      exprText (s.place commaStrength) e ++ ")" ++
      afterHead body (stmtText { depth := s.depth } body)
  | .whileLoop test body =>
    "while (" ++ exprText s.place test ++ ")" ++
      afterHead body (stmtText { depth := s.depth } body)
  | .doWhile body test =>
    "do" ++ afterHead body (stmtText { depth := s.depth } body) ++ gapAfter s.depth body ++
      "while (" ++ exprText s.place test ++ ");"
  | .continueTo label? => "continue" ++ ((label?.map (" " ++ ·)).getD "") ++ ";"
  | .breakTo label? => "break" ++ ((label?.map (" " ++ ·)).getD "") ++ ";"
  | .returnValue value? => "return" ++ optionText s.place " " value? ++ ";"
  | .throwValue e => "throw " ++ exprText s.place e ++ ";"
  | .tryBlock body parts =>
    "try " ++ block s.depth (bodyText s.inside body) ++ partTexts s parts
  | .catchBlock params body =>
    "catch" ++ mark (!params.isEmpty) (" (" ++ commas (patternTexts s.depth params) ++ ")") ++
      " " ++ block s.depth (bodyText s.inside body)
  | .finallyBlock body => "finally " ++ block s.depth (bodyText s.inside body)
  | .switch e cases =>
    "switch (" ++ exprText s.place e ++ ") " ++ block s.depth (bodyText s.inside cases)
  | .case test? body =>
    let test := optionText s.place "case " test?
    (if test.isEmpty then "default" else test) ++ ":" ++ caseText s body
  | .labeled label body =>
    label ++ ":" ++ afterHead body (stmtText { depth := s.depth } body)
  | .withObject e body =>
    "with (" ++ exprText s.place e ++ ")" ++ afterHead body (stmtText { depth := s.depth } body)
  | .debugger => "debugger;"
  | .enumDecl name members =>
    enumText s.depth name (memberLines (s.depth + 1) name [] members) s.marksDeclaration
      (s.declared.contains name) (mayHaveEffects members)
  | .namespaceDecl (.names first more) body =>
    nestedNamespaces s.depth (if s.exported then s.owner? else none) s.marksDeclaration
      (s.declared.contains first)
      (bodyText
        { depth := s.depth + more.length + 1
          owner? := some (ownerName ((first :: more).getLast?.getD first)) }
        body)
      (first :: more)
  | .linkage l => linkageText l
  | .exportDecl d => exportMark s d ++ stmtText { s with exported := true } d ++ exportEnd s d
  | .exportDefault d => "export default " ++ stmtText s d
  | .exportDefaultValue e =>
    "export default " ++ exprText (s.place commaStrength .defaultExport) e ++ ";"
  | .exportAssign e => "module.exports = " ++ exprText (s.place commaStrength) e ++ ";"
  | .commented comments b => commentsText s.depth comments ++ stmtText s b
  | .ambient _ | .typeAlias _ | .interfaceDecl _ | .namespaceDecl _ _ => ""

/-- The head of a loop over items or keys. -/
def headText (s : Spot) : Stmt → String
  | .variableDecl kind bs =>
    kindText kind ++ " " ++ commas (bindingTexts (s.place commaStrength) none bs)
  | .expr e => exprText (s.place postfixStrength) e
  | _ => ""

/-- The handler and the final block of a guarded block. -/
def partTexts (s : Spot) : List Stmt → String
  | [] => ""
  | part :: parts => " " ++ stmtText s part ++ partTexts s parts

/-- The statements of a case: one stands on the line of its test, more on lines of their own. -/
def caseText (s : Spot) : List Stmt → String
  | [] => ""
  | b :: bs =>
    if bs.isEmpty then afterHead b (stmtText { depth := s.depth } b)
    else
      "\n" ++ dropEnd ((if isErased b then "" else line (s.depth + 1) (stmtText s.inside b)) ++
        bodyText s.inside bs)

/-- Statements on lines of their own, each with whether it calls the constructor above. -/
def bodyLines (s : Spot) : List Stmt → List (Bool × String)
  | [] => []
  | b :: bs =>
    (callsSuper b, if isErased b then "" else line s.depth (stmtText s b)) ::
      bodyLines { s with declared := b.blockNames ++ s.declared } bs

/-- Statements on lines of their own. -/
def bodyText (s : Spot) : List Stmt → String
  | [] => ""
  | b :: bs =>
    (if isErased b then "" else line s.depth (stmtText s b)) ++
      bodyText { s with declared := b.blockNames ++ s.declared } bs

end

end PlaceholderExports.Script
