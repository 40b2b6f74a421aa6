import PlaceholderExports.Text.Shortest

/-!
# Syntax trees of modules

The tree of a module text. Types are checked when a text is read, but the tree keeps only what can
be seen of them later: the names of type declarations, and where an expression carries a type.
-/

namespace PlaceholderExports.Syntax

open PlaceholderExports.Text (Numeral)

/-- A string literal: its value and how it is written between its quotes. In a value with lone
surrogates, each of them and each U+FFFD is U+FFFD followed by its four hexadecimal digits. -/
structure StringLit where
  value : String
  raw : String
  hasLoneSurrogate : Bool := false
deriving DecidableEq, Repr

/-- How variables are declared. -/
inductive VariableKind where
  | var
  | let
  | const
  | using
  | awaitUsing
deriving DecidableEq, Repr

/-- The kinds of method. -/
inductive MethodKind where
  | plain
  | getter
  | setter
deriving DecidableEq, Repr

/-- A name in an import or export clause. -/
inductive ModuleName where
  | identifier (name : String)
  | string (value : StringLit)
deriving DecidableEq, Repr

/-- One element of an import or export clause; in an import, `inner` is the name in the other
module. -/
structure Specifier where
  inner : ModuleName
  outer : ModuleName
  typeOnly : Bool
deriving DecidableEq, Repr

/-- The module of an import or export, with its attributes. -/
structure ModuleSource where
  specifier : StringLit
  attributes : List (ModuleName × StringLit) := []
deriving DecidableEq, Repr

/-- What an import binds. -/
inductive ImportBinding where
  | default (name : String)
  | all (name : String)
  | named (imported : ModuleName) (name : String) (typeOnly : Bool)
deriving DecidableEq, Repr

/-- The name that an import binds. -/
def ImportBinding.name : ImportBinding → String
  | default name | all name | named _ name _ => name

/-- The name of a namespace declaration. -/
inductive NamespaceName where
  /-- Dotted names, at least one. -/
  | names (first : String) (more : List String)
  | string (value : StringLit)
  | global
deriving DecidableEq, Repr

/-- What an import alias stands for. -/
inductive AliasTarget where
  | require (specifier : StringLit)
  | entity (names : List String)
deriving DecidableEq, Repr

/-- Expressions without parts. -/
inductive Atom where
  | this
  | super
  | null
  | bool (value : Bool)
  | number (value : Numeral)
  | bigint (digits : String)
  | string (value : StringLit)
  | regex (body flags : String)
  /-- The private name on the left of `in`. -/
  | privateName (id : String)
  | importMeta
  | newTarget
  /-- A place of an array without an item. -/
  | hole
  /-- Text between the elements of markup. -/
  | markupText (raw : String)
deriving DecidableEq, Repr

/-- How a member is taken from an object. -/
inductive Access where
  | field (id : String)
  | privateField (id : String)
deriving DecidableEq, Repr

/-- Imports and exports that hold no declaration or expression. -/
inductive Linkage where
  | importAlias (name : String) (typeOnly : Bool) (target : AliasTarget)
  | importNames (typeOnly : Bool) (bindings? : Option (List ImportBinding)) (source : ModuleSource)
  | exportNames (typeOnly : Bool) (specifiers : List Specifier) (source? : Option ModuleSource)
  | exportAll (typeOnly : Bool) (alias? : Option ModuleName) (source : ModuleSource)
  | exportAsNamespace (name : String)
deriving DecidableEq, Repr

/-- A comment on the statement after it. -/
structure Comment where
  /-- The comment with its marks. -/
  text : String
  isLine : Bool
  /-- A line ends before it. -/
  startsLine : Bool
  /-- A line ends after it. -/
  endsLine : Bool
deriving DecidableEq, Repr

mutual

/-- Expressions. -/
inductive Expr where
  | name (id : String)
  | atom (a : Atom)
  | template (chunks : List String) (values : List Expr)
  | tagged (tag : Expr) (chunks : List String) (values : List Expr)
  | array (items : List Expr)
  | spread (value : Expr)
  | object (members : List Member)
  | function (f : Function)
  | arrow (f : Function)
  /-- An arrow function whose body is an expression. -/
  | arrowValue (f : Function) (value : Expr)
  | classExpr (c : ClassDef)
  | unary (op : String) (operand : Expr)
  | update (op : String) (isLeading : Bool) (operand : Expr)
  | binary (op : String) (left right : Expr)
  | assign (op : String) (target value : Expr)
  | conditional (test yes no : Expr)
  | call (callee : Expr) (args : List Expr) (optional : Bool)
  | new (callee : Expr) (args : List Expr)
  | access (object : Expr) (field : Access) (optional : Bool)
  | index (object key : Expr) (optional : Bool)
  | importCall (args : List Expr)
  | sequence (items : List Expr)
  | yield (delegate : Bool) (value? : Option Expr)
  | await (value : Expr)
  /-- A parenthesised expression. -/
  | grouped (inner : Expr)
  /-- An expression with a type that has no effect on its value. -/
  | typed (inner : Expr)
  /-- An element of markup; a fragment has no tag. -/
  | markup (tag? : Option String) (attributes : List Member) (children : List Expr)

/-- Keys of properties and class members. -/
inductive Key where
  | identifier (name : String)
  | privateName (name : String)
  | string (value : StringLit)
  | number (value : Numeral)
  | bigint (digits : String)
  | computed (value : Expr)

/-- Members of an object literal, and attributes of markup. -/
inductive Member where
  | field (key : Key) (value : Expr)
  | shorthand (name : String)
  /-- A shorthand with a default, which only a destructuring assignment may hold. -/
  | defaulted (name : String) (value : Expr)
  | method (kind : MethodKind) (key : Key) (f : Function)
  | spread (value : Expr)

/-- Functions and methods. One without a body is a signature. -/
structure Function where
  name? : Option String
  isAsync : Bool
  isGenerator : Bool
  params : List Pattern
  isSignature : Bool
  body : List Stmt

/-- Binding patterns, with the parts that stand inside them. -/
inductive Pattern where
  | name (id : String)
  | object (fields : List Pattern)
  | array (items : List Pattern)
  | withDefault (target : Pattern) (value : Expr)
  /-- A property of an object pattern. -/
  | field (key : Key) (target : Pattern)
  /-- A property of an object pattern that is bound under its own name. -/
  | shorthand (target : Pattern)
  /-- The rest of an object, an array or the arguments. -/
  | rest (target : Pattern)
  /-- A place of an array pattern that binds nothing. -/
  | hole
  /-- A parameter that also declares a field of its class. -/
  | fieldParam (target : Pattern)
  /-- A parameter with decorators. -/
  | decorated (decorators : List Expr) (target : Pattern)

/-- Classes. -/
structure ClassDef where
  name? : Option String
  superclass? : Option Expr
  decorators : List Expr
  members : List ClassMember

/-- Members of a class. -/
inductive ClassMember where
  | method (kind : MethodKind) (key : Key) (isStatic : Bool) (f : Function)
      (decorators : List Expr)
  | field (key : Key) (isStatic isAccessor : Bool) (value? : Option Expr)
      (decorators : List Expr)
  /-- A field that only declares a type. -/
  | declaredField (key : Key)
  | staticBlock (body : List Stmt)
  | indexSignature

/-- A pattern with the value that it takes: one declarator of a variable statement, or one member of
an enumeration. -/
structure Binding where
  target : Pattern
  value? : Option Expr

/-- Statements and declarations. -/
inductive Stmt where
  | empty
  | expr (value : Expr)
  | block (body : List Stmt)
  | variableDecl (kind : VariableKind) (bindings : List Binding)
  | function (f : Function)
  | classDecl (c : ClassDef)
  | ifThen (test : Expr) (yes : Stmt)
  | ifElse (test : Expr) (yes no : Stmt)
  /-- A loop; its head is empty, an expression or a variable statement. -/
  | forLoop (head : Stmt) (test? update? : Option Expr) (body : Stmt)
  | forIn (head : Stmt) (object : Expr) (body : Stmt)
  | forOf (isAwait : Bool) (head : Stmt) (values : Expr) (body : Stmt)
  | whileLoop (test : Expr) (body : Stmt)
  | doWhile (body : Stmt) (test : Expr)
  | continueTo (label? : Option String)
  | breakTo (label? : Option String)
  | returnValue (value? : Option Expr)
  | throwValue (value : Expr)
  /-- A guarded block, followed by its handler and its final block, of which it has at least one. -/
  | tryBlock (body parts : List Stmt)
  /-- The handler of a guarded block, with at most one parameter. -/
  | catchBlock (params : List Pattern) (body : List Stmt)
  | finallyBlock (body : List Stmt)
  | switch (value : Expr) (cases : List Stmt)
  /-- One case of a switch; the default case has no test. -/
  | case (test? : Option Expr) (body : List Stmt)
  | labeled (label : String) (body : Stmt)
  | withObject (object : Expr) (body : Stmt)
  | debugger
  /-- A declaration that only describes what exists elsewhere. -/
  | ambient (declaration : Stmt)
  | typeAlias (name : String)
  | interfaceDecl (name : String)
  | enumDecl (name : String) (members : List Binding)
  | namespaceDecl (name : NamespaceName) (body : List Stmt)
  | linkage (l : Linkage)
  | exportDecl (declaration : Stmt)
  | exportDefault (declaration : Stmt)
  | exportDefaultValue (value : Expr)
  | exportAssign (value : Expr)
  /-- A statement with the comments before it. -/
  | commented (comments : List Comment) (body : Stmt)

end

instance : Inhabited Expr := ⟨.atom .null⟩
instance : Inhabited Stmt := ⟨.empty⟩

/-- A module text: its first line if that names an interpreter, its directives, its statements. -/
structure Module where
  hashbang? : Option String := none
  directives : List StringLit := []
  body : List Stmt

end PlaceholderExports.Syntax
