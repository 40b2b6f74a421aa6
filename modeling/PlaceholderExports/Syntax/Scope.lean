import PlaceholderExports.Syntax.Reduction

/-!
# Scopes

Which names the statements of a block declare, and which names of the surroundings a piece of a tree
uses as values. A type uses nothing, and a declaration that only describes uses nothing.

* `Stmt.blockNames`: the names that a statement declares in its own block.
* `Stmt.hoistedNames`: the names that it declares for the whole function or module.
* `Expr.uses`, `Stmt.uses`: the names that are used and not declared inside.
-/

namespace PlaceholderExports.Syntax

/-! ### Declarations -/

/-- The name that a namespace declares, if it is no quoted one. -/
def NamespaceName.declared? : NamespaceName → Option String
  | names first _ => some first
  | string _ | global => none

/-- The names that an import or alias declares. -/
def Linkage.declaredNames : Linkage → List String
  | importAlias name _ _ => [name]
  | importNames _ bindings? _ => (bindings?.getD []).map ImportBinding.name
  | _ => []

/-- The names that some bindings declare. -/
def bindingNames (bs : List Binding) : List String := bs.flatMap fun b => b.target.boundNames

/-- The names that a statement declares in its own block, types left out. -/
def Stmt.blockNames : Stmt → List String
  | .variableDecl .var _ => []
  | .variableDecl _ bs => bindingNames bs
  | .function f => f.name?.toList
  | .classDecl c => c.name?.toList
  | .enumDecl name _ => [name]
  | .namespaceDecl name _ => name.declared?.toList
  | .linkage l => l.declaredNames
  | .ambient d | .exportDecl d | .exportDefault d | .commented _ d => d.blockNames
  | _ => []

mutual

/-- The names that `var` declares in a statement, outside functions, classes and namespaces. -/
def Stmt.hoistedNames : Stmt → List String
  | .variableDecl .var bs => bindingNames bs
  | .block body | .catchBlock _ body | .finallyBlock body | .case _ body | .switch _ body =>
    hoistedNamesOf body
  | .ifThen _ yes => yes.hoistedNames
  | .ifElse _ yes no => yes.hoistedNames ++ no.hoistedNames
  | .forLoop head _ _ body | .forIn head _ body | .forOf _ head _ body =>
    head.hoistedNames ++ body.hoistedNames
  | .whileLoop _ body | .doWhile body _ | .labeled _ body | .withObject _ body =>
    body.hoistedNames
  | .tryBlock body parts => hoistedNamesOf body ++ hoistedNamesOf parts
  | .ambient d | .exportDecl d | .commented _ d => d.hoistedNames
  | _ => []

/-- The names that `var` declares in some statements. -/
def hoistedNamesOf : List Stmt → List String
  | [] => []
  | s :: ss => s.hoistedNames ++ hoistedNamesOf ss

end

/-- The names that a list of statements declares in its own block. -/
def blockNamesOf (body : List Stmt) : List String := body.flatMap Stmt.blockNames

/-- Every name that a module declares in its scope. -/
def Module.declaredNames (m : Module) : List String :=
  blockNamesOf m.body ++ hoistedNamesOf m.body

/-! ### Uses -/

/-- Some names without those that are declared. -/
def without (declared names : List String) : List String :=
  names.filter fun n => !declared.contains n

/-- What a tag uses: the first part of a dotted one, or one that does not begin like the name of a
plain element. -/
def tagUses (tag : String) : List String :=
  let first := String.ofList (tag.toList.takeWhile (· ≠ '.'))
  if tag.contains '.' || !(tag.toList.head?.any fun c => c.isLower) then [first] else []

/-- What an import or export uses. A type uses nothing. -/
def Linkage.uses : Linkage → List String
  | importAlias _ false (.entity (first :: _)) => [first]
  | exportNames false specifiers none =>
    (specifiers.filter fun s => !s.typeOnly).map fun s => s.inner.text
  | _ => []

mutual

/-- The names that an expression uses. -/
def Expr.uses : Expr → List String
  | .name id => [id]
  | .atom _ => []
  | .template _ values => usesOf values
  | .tagged tag _ values => tag.uses ++ usesOf values
  | .array items | .importCall items | .sequence items => usesOf items
  | .spread e | .unary _ e | .update _ _ e | .await e | .grouped e | .typed e => e.uses
  | .object members => memberUses members
  | .function f | .arrow f => f.uses
  | .arrowValue f value => f.uses ++ without (boundNamesOf f.params) value.uses
  | .classExpr c => c.uses
  | .binary _ left right | .assign _ left right => left.uses ++ right.uses
  | .conditional test yes no => test.uses ++ yes.uses ++ no.uses
  | .call callee args _ | .new callee args => callee.uses ++ usesOf args
  | .access object _ _ => object.uses
  | .index object k _ => object.uses ++ k.uses
  | .yield _ value? => optionUses value?
  | .markup tag? attributes children =>
    (tag?.map tagUses).getD [] ++ memberUses attributes ++ usesOf children

/-- The names that some expressions use. -/
def usesOf : List Expr → List String
  | [] => []
  | e :: es => e.uses ++ usesOf es

/-- The names that an expression uses, if there is one. -/
def optionUses : Option Expr → List String
  | none => []
  | some e => e.uses

/-- The names that a key uses. -/
def Key.uses : Key → List String
  | .computed e => e.uses
  | _ => []

/-- The names that a member of an object uses. -/
def Member.uses : Member → List String
  | .field k value => k.uses ++ value.uses
  | .shorthand name => [name]
  | .defaulted name value => name :: value.uses
  | .method _ k f => k.uses ++ f.uses
  | .spread value => value.uses

/-- The names that some members use. -/
def memberUses : List Member → List String
  | [] => []
  | m :: ms => m.uses ++ memberUses ms

/-- The names that a function uses. -/
def Function.uses : Function → List String
  | ⟨name?, _, _, params, _, body⟩ =>
    without (name?.toList ++ boundNamesOf params ++ blockNamesOf body ++ hoistedNamesOf body)
      (patternUses params ++ bodyUses body)

/-- The names that a pattern uses in its defaults and computed keys. -/
def Pattern.uses : Pattern → List String
  | .name _ | .hole => []
  | .object ps | .array ps => patternUses ps
  | .withDefault target value => target.uses ++ value.uses
  | .field k target => k.uses ++ target.uses
  | .shorthand target | .rest target | .fieldParam target => target.uses
  | .decorated ds target => usesOf ds ++ target.uses

/-- The names that some patterns use. -/
def patternUses : List Pattern → List String
  | [] => []
  | p :: ps => p.uses ++ patternUses ps

/-- The names that a class uses. -/
def ClassDef.uses : ClassDef → List String
  | ⟨name?, superclass?, decorators, members⟩ =>
    usesOf decorators ++
      without name?.toList (optionUses superclass? ++ classMemberUses members)

/-- The names that a member of a class uses. -/
def ClassMember.uses : ClassMember → List String
  | .method _ k _ f ds => usesOf ds ++ k.uses ++ f.uses
  | .field k _ _ value? ds => usesOf ds ++ k.uses ++ optionUses value?
  | .declaredField _ | .indexSignature => []
  | .staticBlock body => without (blockNamesOf body ++ hoistedNamesOf body) (bodyUses body)

/-- The names that some members of a class use. -/
def classMemberUses : List ClassMember → List String
  | [] => []
  | m :: ms => m.uses ++ classMemberUses ms

/-- The names that a binding uses. -/
def Binding.uses : Binding → List String
  | ⟨target, value?⟩ => target.uses ++ optionUses value?

/-- The names that some bindings use. -/
def bindingUses : List Binding → List String
  | [] => []
  | b :: bs => b.uses ++ bindingUses bs

/-- The names that a statement uses. The names of its block are not subtracted. -/
def Stmt.uses : Stmt → List String
  | .expr e | .throwValue e | .exportDefaultValue e | .exportAssign e => e.uses
  | .block body | .finallyBlock body => without (blockNamesOf body) (bodyUses body)
  | .variableDecl _ bs => bindingUses bs
  | .function f => f.uses
  | .classDecl c => c.uses
  | .ifThen test yes => test.uses ++ yes.uses
  | .ifElse test yes no => test.uses ++ yes.uses ++ no.uses
  | .forLoop head test? update? body =>
    without head.blockNames (head.uses ++ optionUses test? ++ optionUses update? ++ body.uses)
  | .forIn head e body | .forOf _ head e body =>
    without head.blockNames (head.uses ++ e.uses ++ body.uses)
  | .whileLoop e body | .doWhile body e | .withObject e body => e.uses ++ body.uses
  | .returnValue e? => optionUses e?
  | .tryBlock body parts => without (blockNamesOf body) (bodyUses body) ++ bodyUses parts
  | .catchBlock params body =>
    without (boundNamesOf params ++ blockNamesOf body) (patternUses params ++ bodyUses body)
  | .switch e cases => e.uses ++ bodyUses cases
  | .case test? body => optionUses test? ++ without (blockNamesOf body) (bodyUses body)
  | .labeled _ body => body.uses
  | .enumDecl name members => without (name :: bindingNames members) (bindingUses members)
  | .namespaceDecl _ body => without (blockNamesOf body ++ hoistedNamesOf body) (bodyUses body)
  | .linkage l => l.uses
  | .exportDecl d | .exportDefault d | .commented _ d => d.uses
  | .empty | .continueTo _ | .breakTo _ | .debugger | .ambient _ | .typeAlias _
  | .interfaceDecl _ => []

/-- The names that some statements use. -/
def bodyUses : List Stmt → List String
  | [] => []
  | s :: ss => s.uses ++ bodyUses ss

end

end PlaceholderExports.Syntax
