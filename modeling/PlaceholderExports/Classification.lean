import PlaceholderExports.Assoc
import PlaceholderExports.NameSet
import PlaceholderExports.Statement

/-!
# Exports without a value

Finds the exported names of a module that denote a type and have no value behind them. A classifier
goes over the statements once and keeps

* the names declared as types (aliases, interfaces, classes, enums),
* the names declared as values (variables, functions, classes, enums),
* for every exported local name, how it is exported (as a type, as a value) and under which names,
* every name bound at top level.

All four only grow, so the order of the statements decides the order of the answer and nothing else.
-/

namespace PlaceholderExports

/-- How a local name leaves the module. -/
structure Intent where
  asType : Bool := false
  asValue : Bool := false
deriving DecidableEq, Repr

namespace Intent

/-- Exported as a type only. -/
def type : Intent := { asType := true }

/-- Exported as a value only. -/
def value : Intent := { asValue := true }

/-- Exported as a type and as a value. -/
def both : Intent := { asType := true, asValue := true }

/-- Exported in one of two ways. -/
def union (a b : Intent) : Intent :=
  { asType := a.asType || b.asType, asValue := a.asValue || b.asValue }

instance : Union Intent := ⟨union⟩

end Intent

/-- What is known of the exports of one local name. -/
structure ExportRecord where
  intent : Intent := {}
  /-- The names that importers see, in order of first appearance. -/
  aliases : NameSet := {}
deriving DecidableEq, Repr

/-- Adds one more export of the same local name. -/
def ExportRecord.extend (r : ExportRecord) (exported : String) (intent : Intent) : ExportRecord :=
  { intent := r.intent ∪ intent, aliases := r.aliases.add exported }

/-- Export records by local name, in the order in which the local names were first exported. -/
abbrev ExportTable := List (String × ExportRecord)

/-- Records one export of a local name. -/
def ExportTable.record (name exported : String) (intent : Intent) (table : ExportTable) :
    ExportTable :=
  Assoc.update name (fun r? => (r?.getD {}).extend exported intent) table

/-- An export is recorded in the record of its local name, wherever that stands in the table. -/
theorem ExportTable.record_cons (name exported : String) (intent : Intent) (key : String)
    (r : ExportRecord) (rest : ExportTable) :
    ExportTable.record name exported intent ((key, r) :: rest) =
      if key = name then (key, r.extend exported intent) :: rest
      else (key, r) :: ExportTable.record name exported intent rest :=
  rfl

/-- The record of a local name, if it is exported at all. -/
def ExportTable.find? (table : ExportTable) (name : String) : Option ExportRecord :=
  List.lookup name table

/-- The result of classifying a module. -/
structure Classification where
  /-- Exported names that need a placeholder value. -/
  exportsWithNoValue : NameSet := {}
  /-- Every name bound at the top level of the module. -/
  topLevelNames : NameSet := {}
deriving DecidableEq, Repr

namespace Classification

/-- Whether no export needs a placeholder. -/
def isEmpty (c : Classification) : Bool := c.exportsWithNoValue.isEmpty

/-- The names that need a placeholder, in order. -/
def names (c : Classification) : List String := c.exportsWithNoValue.toList

end Classification

/-- What a pass over the statements has gathered so far. -/
structure Classifier where
  /-- Names declared as types. -/
  types : NameSet := {}
  /-- Names declared as values. -/
  values : NameSet := {}
  exports : ExportTable := []
  topLevelNames : NameSet := {}
deriving DecidableEq, Repr

namespace Classifier

/-- Declares a top-level name as a type. -/
def declareType (c : Classifier) (name : String) : Classifier :=
  { c with topLevelNames := c.topLevelNames.add name, types := c.types.add name }

/-- Declares a top-level name as a value. -/
def declareValue (c : Classifier) (name : String) : Classifier :=
  { c with topLevelNames := c.topLevelNames.add name, values := c.values.add name }

/-- Notes names that are bound at top level without being classified. -/
def bindNames (c : Classifier) (names : List String) : Classifier :=
  { c with topLevelNames := c.topLevelNames.addAll names }

/-- Records one export of a local name. -/
def recordExport (c : Classifier) (name exported : String) (intent : Intent) : Classifier :=
  { c with exports := c.exports.record name exported intent }

/-- Records an export of a declared name under itself, if the declaration is exported. -/
def recordInline (c : Classifier) (exported : Bool) (name : String) (intent : Intent) :
    Classifier :=
  if exported then c.recordExport name name intent else c

/-- Takes in one declarator. Destructured names are bound, but are not values. -/
def visitDeclarator (exported : Bool) (c : Classifier) (d : Declarator) : Classifier :=
  let c := c.bindNames d.boundNames
  match d.identifier? with
  | some name => (c.declareValue name).recordInline exported name .value
  | none => c

/-- Takes in an export clause. Only the clause as a whole can narrow the intent to types; the mark
of a single element does not. -/
def visitClause (c : Classifier) (clause : ExportClause) : Classifier :=
  if clause.isReexport then c
  else
    let intent := if clause.typeOnly then Intent.type else Intent.both
    clause.elements.foldl (fun c e => c.recordExport e.localName e.exportedName intent) c

/-- Takes in one statement. -/
def visit (c : Classifier) (s : Statement) : Classifier :=
  match s.kind with
  | .typeAlias name | .interfaceDecl name =>
    (c.declareType name).recordInline s.exported name .type
  | .variableDecl declarators => declarators.foldl (visitDeclarator s.exported) c
  | .functionDecl (some name) => (c.declareValue name).recordInline s.exported name .value
  | .classDecl (some name) | .enumDecl name =>
    ((c.declareType name).declareValue name).recordInline s.exported name .both
  | .exportClause clause => c.visitClause clause
  | .importNames names => c.bindNames names
  | .functionDecl none | .classDecl none | .other => c

/-- Whether an exported local name is a type for its importers and has no value. -/
def lacksValue (c : Classifier) (name : String) (r : ExportRecord) : Bool :=
  decide (name ∈ c.types) && !(r.intent.asValue && decide (name ∈ c.values))

/-- The names exported for a type without a value, by local name and then by alias. -/
def unvaluedNames (c : Classifier) : List String :=
  c.exports.flatMap fun (name, r) => if c.lacksValue name r then r.aliases.toList else []

/-- What has been found. -/
def finish (c : Classifier) : Classification :=
  { exportsWithNoValue := NameSet.ofList c.unvaluedNames
    topLevelNames := c.topLevelNames }

/-- The state after a list of statements. -/
def run (statements : List Statement) : Classifier := statements.foldl visit {}

end Classifier

/-- Classifies the statements of a module. -/
def classify (statements : List Statement) : Classification :=
  (Classifier.run statements).finish

end PlaceholderExports
