import PlaceholderExports.Classification
import PlaceholderExports.Proofs.NameOrder

/-!
# Outlines of modules

An `Outline` lists what the statements of a module declare and export, in the order in which they do
it: the names declared as types, those declared as values, all names bound at top level, and the
exports of local names. It is read off the statements one by one and keeps no state.

The main result is `Classifier.run_eq`: a pass over the statements gathers exactly their outline.
One lemma for each operation of the classifier (`visitDeclarator_eq`, `visitClause_eq`, `visit_eq`)
says what it takes from a statement, and `foldl_absorb` lifts that to lists.
-/

namespace PlaceholderExports

/-- One export of a local name. -/
structure ExportEvent where
  localName : String
  /-- The name that importers see. -/
  exportedName : String
  /-- How the name leaves the module. -/
  intent : Intent
deriving DecidableEq, Repr

/-- The export of a declared name under itself, if its declaration is exported. -/
def ExportEvent.inPlace (exported : Bool) (intent : Intent) (name : String) : List ExportEvent :=
  if exported then [⟨name, name, intent⟩] else []

/-- The exports of a clause. There are none if it passes on the names of another module. -/
def ExportClause.events (clause : ExportClause) : List ExportEvent :=
  if clause.isReexport then []
  else clause.elements.map fun e =>
    ⟨e.localName, e.exportedName, if clause.typeOnly then .type else .both⟩

/-- What statements declare and export, in order. -/
structure Outline where
  /-- Names declared as types: aliases, interfaces, classes, enums. -/
  types : List String := []
  /-- Names declared as values: plain variables, functions, classes, enums. -/
  values : List String := []
  /-- Every name bound at top level. -/
  bound : List String := []
  /-- The exports of local names. -/
  events : List ExportEvent := []
deriving DecidableEq, Repr

namespace Outline

/-- One outline after the other. -/
instance : Append Outline where
  append a b :=
    { types := a.types ++ b.types
      values := a.values ++ b.values
      bound := a.bound ++ b.bound
      events := a.events ++ b.events }

/-- The types of two outlines, one after the other. -/
@[simp] lemma types_append (a b : Outline) : (a ++ b).types = a.types ++ b.types := rfl

/-- The values of two outlines, one after the other. -/
@[simp] lemma values_append (a b : Outline) : (a ++ b).values = a.values ++ b.values := rfl

/-- The bound names of two outlines, one after the other. -/
@[simp] lemma bound_append (a b : Outline) : (a ++ b).bound = a.bound ++ b.bound := rfl

/-- The exports of two outlines, one after the other. -/
@[simp] lemma events_append (a b : Outline) : (a ++ b).events = a.events ++ b.events := rfl

/-- The outlines of the members of a list, one after the other. -/
def gather {α : Type} (f : α → Outline) (xs : List α) : Outline where
  types := xs.flatMap fun x => (f x).types
  values := xs.flatMap fun x => (f x).values
  bound := xs.flatMap fun x => (f x).bound
  events := xs.flatMap fun x => (f x).events

/-- Nothing has an empty outline. -/
@[simp] lemma gather_nil {α : Type} (f : α → Outline) : gather f [] = {} := rfl

/-- The outline of a list begins with that of its first element. -/
@[simp] lemma gather_cons {α : Type} (f : α → Outline) (x : α) (xs : List α) :
    gather f (x :: xs) = f x ++ gather f xs := rfl

/-- The outline of two lists is that of the first and then that of the second. -/
lemma gather_append {α : Type} (f : α → Outline) (xs ys : List α) :
    gather f (xs ++ ys) = gather f xs ++ gather f ys := by
  unfold gather
  simp only [List.flatMap_append]
  rfl

end Outline

/-- What a declarator declares and exports. Destructured names are bound, but are not values. -/
def Declarator.outline (exported : Bool) : Declarator → Outline
  | .identifier name =>
    { values := [name], bound := [name], events := ExportEvent.inPlace exported .value name }
  | .pattern names => { bound := names }

/-- What a statement declares and exports. -/
def Statement.outline (s : Statement) : Outline :=
  match s.kind with
  | .typeAlias name | .interfaceDecl name =>
    { types := [name], bound := [name], events := ExportEvent.inPlace s.exported .type name }
  | .variableDecl declarators => .gather (Declarator.outline s.exported) declarators
  | .functionDecl (some name) =>
    { values := [name], bound := [name], events := ExportEvent.inPlace s.exported .value name }
  | .classDecl (some name) | .enumDecl name =>
    { types := [name], values := [name], bound := [name],
      events := ExportEvent.inPlace s.exported .both name }
  | .exportClause clause => { events := clause.events }
  | .importNames names => { bound := names }
  | .functionDecl none | .classDecl none | .other => {}

/-- What the statements of a module declare and export. -/
def Outline.ofStatements (S : List Statement) : Outline := .gather Statement.outline S

/-- The outline of statements begins with that of the first one. -/
lemma Outline.ofStatements_cons (s : Statement) (S : List Statement) :
    ofStatements (s :: S) = s.outline ++ ofStatements S := rfl

/-- The outline of one statement alone. -/
lemma Outline.ofStatements_singleton (s : Statement) : ofStatements [s] = s.outline := by
  show mk (_ ++ []) (_ ++ []) (_ ++ []) (_ ++ []) = _
  simp only [List.append_nil]

/-- The outline of some statements and more. -/
lemma Outline.ofStatements_append (S T : List Statement) :
    ofStatements (S ++ T) = ofStatements S ++ ofStatements T :=
  gather_append _ S T

/-- Records exports one after the other. -/
def ExportTable.recordAll (table : ExportTable) (events : List ExportEvent) : ExportTable :=
  events.foldl (fun table e => table.record e.localName e.exportedName e.intent) table

namespace Classifier

/-- The classifier with an outline taken in. -/
def absorb (c : Classifier) (o : Outline) : Classifier where
  types := c.types.addAll o.types
  values := c.values.addAll o.values
  exports := c.exports.recordAll o.events
  topLevelNames := c.topLevelNames.addAll o.bound

/-- Nothing is taken in from an empty outline. -/
@[simp] lemma absorb_empty (c : Classifier) : c.absorb {} = c := rfl

/-- Outlines can be taken in one after the other. -/
lemma absorb_append (c : Classifier) (a b : Outline) :
    c.absorb (a ++ b) = (c.absorb a).absorb b := by
  simp [absorb, NameSet.addAll_append, ExportTable.recordAll]

/-- Taking in the members of a list takes in what they gather. -/
lemma foldl_absorb {α : Type} (f : α → Outline) (c : Classifier) (xs : List α) :
    xs.foldl (fun c x => c.absorb (f x)) c = c.absorb (.gather f xs) := by
  induction xs generalizing c with
  | nil => rfl
  | cons x xs ih =>
    rw [List.foldl_cons, ih, Outline.gather_cons, absorb_append]

/-- An export in place is recorded for exported declarations. -/
lemma recordInline_eq (c : Classifier) (exported : Bool) (name : String) (intent : Intent) :
    c.recordInline exported name intent =
      c.absorb { events := ExportEvent.inPlace exported intent name } := by
  cases exported with
  | false => rfl
  | true => rfl

/-- A declarator is taken in with its outline. -/
lemma visitDeclarator_eq (exported : Bool) (c : Classifier) (d : Declarator) :
    visitDeclarator exported c d = c.absorb (d.outline exported) := by
  cases d with
  | identifier name =>
    -- the name is bound twice, once with its declarator and once as a value
    simp [visitDeclarator, Declarator.boundNames, Declarator.identifier?, recordInline_eq,
      bindNames, declareValue, absorb, Declarator.outline]
  | pattern names => rfl

/-- A clause is taken in with its exports. -/
lemma visitClause_eq (c : Classifier) (clause : ExportClause) :
    c.visitClause clause = c.absorb { events := clause.events } := by
  have fold : ∀ (intent : Intent) (elements : List ExportElement) (c : Classifier),
      elements.foldl (fun c e => c.recordExport e.localName e.exportedName intent) c =
        c.absorb { events := elements.map fun e => ⟨e.localName, e.exportedName, intent⟩ } := by
    intro intent elements
    induction elements with
    | nil => exact fun _ => rfl
    | cons e elements ih => exact fun c => ih _
  unfold visitClause ExportClause.events
  cases clause.isReexport with
  | true => rfl
  | false => exact fold _ _ c

/-- A statement is taken in with its outline. -/
lemma visit_eq (c : Classifier) (s : Statement) : c.visit s = c.absorb s.outline := by
  obtain ⟨kind, exported⟩ := s
  cases kind with
  | typeAlias name => exact recordInline_eq _ _ _ _
  | interfaceDecl name => exact recordInline_eq _ _ _ _
  | variableDecl declarators =>
    have step : visitDeclarator exported = fun c d => c.absorb (d.outline exported) := by
      funext c d
      exact visitDeclarator_eq exported c d
    show declarators.foldl (visitDeclarator exported) c = _
    rw [step]
    exact foldl_absorb _ c declarators
  | functionDecl name? =>
    cases name? with
    | none => rfl
    | some name => exact recordInline_eq _ _ _ _
  | classDecl name? =>
    cases name? with
    | none => rfl
    | some name =>
      simp [visit, recordInline_eq, declareType, declareValue, absorb, Statement.outline]
  | enumDecl name =>
    simp [visit, recordInline_eq, declareType, declareValue, absorb, Statement.outline]
  | exportClause clause => exact visitClause_eq c clause
  | importNames names => rfl
  | other => rfl

/-- Going on with more statements takes in their outline. -/
lemma foldl_visit (c : Classifier) (S : List Statement) :
    S.foldl visit c = c.absorb (.ofStatements S) := by
  have step : visit = fun c s => c.absorb s.outline := by
    funext c s
    exact visit_eq c s
  rw [step]
  exact foldl_absorb _ c S

/-- A pass over the statements of a module gathers their outline. -/
theorem run_eq (S : List Statement) : run S = ({} : Classifier).absorb (.ofStatements S) :=
  foldl_visit {} S

end Classifier

end PlaceholderExports
