import PlaceholderExports.Script.Render

/-!
# Imports and exports of scripts

A script imports what it uses as a value and exports what is one. A name is judged by all its
declarations at the top of the module. A module whose imports and exports are all left out stays a
module by an empty export clause.

* `roles`: what the declarations of a statement make of their names.
* `linked`: the statements of a module that its script needs.
* `moduleText`: the script of a module, unless it is refused.
-/

namespace PlaceholderExports.Script

open PlaceholderExports.Syntax

/-- What a declaration makes of a name. -/
inductive Role where
  | type
  | value
  /-- A value that is only described. -/
  | ambient
  | imported
  | importedType
deriving DecidableEq, Repr

namespace Role

/-- Whether the name stands for a value. -/
def isValue : Role → Bool
  | value | ambient | imported => true
  | type | importedType => false

/-- Whether the name stands for a value of this module. -/
def isOwnValue : Role → Bool
  | value | ambient => true
  | _ => false

end Role

/-- What an import binding makes of its name. -/
def bindingRole (typeOnly : Bool) : ImportBinding → String × Role
  | .named _ name isType => (name, if typeOnly || isType then .importedType else .imported)
  | b => (b.name, if typeOnly then .importedType else .imported)

/-- What an import or alias makes of its names. -/
def linkageRoles : Linkage → List (String × Role)
  | .importAlias name typeOnly _ => [(name, if typeOnly then .importedType else .imported)]
  | .importNames typeOnly bindings? _ => (bindings?.getD []).map (bindingRole typeOnly)
  | _ => []

/-- The names that a statement declares as one role. -/
def rolesAs (role : Role) (s : Stmt) : List (String × Role) :=
  (s.blockNames ++ s.hoistedNames).map fun n => (n, role)

/-- What the declarations of a statement make of their names. -/
def roles : Stmt → List (String × Role)
  | .typeAlias name | .interfaceDecl name => [(name, .type)]
  | .ambient (.typeAlias name) | .ambient (.interfaceDecl name) => [(name, .type)]
  | .ambient d => rolesAs .ambient d
  | .namespaceDecl name body =>
    rolesAs (if areErased body then .type else .value) (.namespaceDecl name body)
  | .linkage l => linkageRoles l
  | .exportDecl d | .exportDefault d | .commented _ d => roles d
  | s => rolesAs .value s

/-- What a module knows of its names. -/
structure Names where
  roles : List (String × Role)
  uses : List String

/-- What a module knows of its names. -/
def namesOf (body : List Stmt) : Names := { roles := body.flatMap roles, uses := bodyUses body }

namespace Names

/-- The roles of a name. -/
def rolesOf (ns : Names) (name : String) : List Role :=
  ns.roles.filterMap fun (n, role) => if n = name then some role else none

/-- Whether an export of a name stays: it is a value somewhere, and not everywhere only described.
A name that nothing declares stays, too. -/
def keepsExport (ns : Names) (name : String) : Bool :=
  let rs := ns.rolesOf name
  rs.isEmpty || (rs.any Role.isValue && !rs.all (· == .ambient))

/-- Whether an imported name stays: it is used, and the module does not declare it anew. -/
def keepsImport (ns : Names) (name : String) : Bool :=
  ns.uses.contains name && !(ns.rolesOf name).any Role.isOwnValue

/-- Whether an import binding stays. -/
def keepsBinding (ns : Names) (b : ImportBinding) : Bool :=
  (bindingRole false b).2 == .imported && ns.keepsImport b.name

/-- Whether an element of an export clause stays. -/
def keepsSpecifier (ns : Names) (isOwn : Bool) (s : Specifier) : Bool :=
  !s.typeOnly && (!isOwn || ns.keepsExport s.inner.text)

end Names

/-- The part of a list that stays. Nothing is left of a list that loses all its elements, but one
that has none stays. -/
def filterUnlessEmpty {α : Type} (keep : α → Bool) (items : List α) : Option (List α) :=
  if items.isEmpty then some []
  else
    let kept := items.filter keep
    if kept.isEmpty then none else some kept

/-- What a script needs of an import or export. -/
def linkage? (ns : Names) : Linkage → Option Linkage
  | .importAlias name false target =>
    if ns.uses.contains name then some (.importAlias name false target) else none
  | .importNames false (some bindings) source =>
    (filterUnlessEmpty ns.keepsBinding bindings).map fun bs => .importNames false (some bs) source
  | .importNames false none source => some (.importNames false none source)
  | .exportNames false specifiers source? =>
    (filterUnlessEmpty (ns.keepsSpecifier source?.isNone) specifiers).map fun ss =>
      .exportNames false ss source?
  | .exportAll false alias? source => some (.exportAll false alias? source)
  | _ => none

/-- What a script needs of a statement. -/
def needed? (ns : Names) : Stmt → Option Stmt
  | .linkage l => (linkage? ns l).map .linkage
  | .exportDefaultValue (.name id) =>
    if ns.keepsExport id then some (.exportDefaultValue (.name id)) else none
  | .commented comments s => (needed? ns s).map (.commented comments)
  | s => if isErased s then none else some s

/-- Whether a statement makes its text a module. -/
def isModular : Stmt → Bool
  | .linkage _ | .exportDecl _ | .exportDefault _ | .exportDefaultValue _ | .exportAssign _ => true
  | .commented _ s => isModular s
  | _ => false

/-- Whether the script of a statement makes its text a module: an alias becomes a variable. -/
def staysModular : Stmt → Bool
  | .linkage (.importAlias _ _ _) => false
  | .commented _ s => staysModular s
  | s => isModular s

/-- The empty export clause. -/
def emptyExport : Stmt := .linkage (.exportNames false [] none)

/-- The statements that a script needs. -/
def linked (body : List Stmt) : List Stmt :=
  let ns := namesOf body
  let kept := body.filterMap (needed? ns)
  let dropped := body.any fun s => isModular s && (needed? ns s).isNone
  if dropped && !kept.any staysModular then kept ++ [emptyExport] else kept

/-! ### What has no script -/

/-- Whether a statement exports a variable which may change. -/
def isOpenExport : Stmt → Bool
  | .exportDecl (.variableDecl kind _) => kind != .const
  | .commented _ s => isOpenExport s
  | _ => false

mutual

/-- Whether a statement holds a namespace that exports a variable which may change. -/
def exportsVariable : Stmt → Bool
  | .namespaceDecl _ body => bodyExportsVariable body
  | .exportDecl d | .commented _ d => exportsVariable d
  | _ => false

/-- Whether the body of a namespace exports a variable which may change. -/
def bodyExportsVariable : List Stmt → Bool
  | [] => false
  | s :: ss =>
    isOpenExport s ||
      exportsVariable s || bodyExportsVariable ss

end

/-- Whether a statement needs a loader that is not that of modules. -/
def needsLoader : Stmt → Bool
  | .linkage (.importAlias _ false (.require _)) => true
  | .exportDecl d | .commented _ d => needsLoader d
  | .exportAssign _ => true
  | _ => false

/-- Why a module has no script. -/
inductive Refusal where
  | notModule
  | changingExport
  | foreignLoader
deriving DecidableEq, Repr

/-- The wording of a refusal. -/
def Refusal.message : Refusal → String
  | notModule => "Unexpected token"
  | changingExport => "Namespaces exporting non-const are not supported."
  | foreignLoader => "Imports and exports by assignment are not supported in modules."

/-- The script of a module. -/
def moduleText (m : Module) : Except Refusal String :=
  let body := linked m.body
  if body.any exportsVariable then .error .changingExport
  else if body.any needsLoader then .error .foreignLoader
  else
    let hashbang := (m.hashbang?.map fun line => "#!" ++ line ++ "\n").getD ""
    let directives := String.join (m.directives.map fun d => directiveText d ++ "\n")
    .ok (hashbang ++ directives ++ bodyText {} body)

end PlaceholderExports.Script
