import PlaceholderExports.Proofs.Classification.Declarative

/-!
# Modules that are written otherwise

Which names need a placeholder, and in which order, is decided by the core of the outline of a
module (`Outline.core`): the names declared as types, those declared as values, and the exports of
local names, each with whether it is one of a value. What else the outline holds takes no part
(`Outline.unvalued_core`), so a module can be written otherwise, statement by statement, as long as
the core is kept (`Outline.core_flatMap`).

* An export in place can be spelled out as a clause behind the declaration. The intents that are
  recorded differ, but not in the core: `classify_spellOut`.
* Exports of other modules, imports, destructured and anonymous declarations and the marks of single
  elements can be left out, whatever names they mention: `exportsWithNoValue_relevant`.
-/

namespace PlaceholderExports

/-! ### The core of an outline -/

/-- An export, with no word on whether it is one of a type. -/
def ExportEvent.core (e : ExportEvent) : ExportEvent :=
  { e with intent := { e.intent with asType := false } }

namespace Outline

/-- What decides which names need a placeholder. -/
def core (o : Outline) : Outline where
  types := o.types
  values := o.values
  events := o.events.map ExportEvent.core

/-- The core of an outline has the same types. -/
@[simp] lemma types_core (o : Outline) : o.core.types = o.types := rfl

/-- The core of an outline has the same values. -/
@[simp] lemma values_core (o : Outline) : o.core.values = o.values := rfl

/-- The exports of a core are the cores of the exports. -/
@[simp] lemma events_core (o : Outline) : o.core.events = o.events.map ExportEvent.core := rfl

/-- The core of two outlines is that of the first and then that of the second. -/
lemma core_append (a b : Outline) : (a ++ b).core = a.core ++ b.core := by
  unfold core
  rw [events_append, List.map_append]
  rfl

/-- In the core of an outline the same names lack a value. -/
lemma lacksValue_core (o : Outline) (name : String) :
    o.core.LacksValue name ↔ o.LacksValue name := by
  unfold LacksValue
  rw [types_core, values_core, events_core]
  simp [ExportEvent.core]

/-- The core of an outline exports the same local names. -/
lemma localNames_core (o : Outline) : o.core.localNames = o.localNames := by
  unfold localNames
  rw [events_core, List.map_map]
  rfl

/-- In the core of an outline a name has the same aliases. -/
lemma aliases_core (o : Outline) (name : String) : o.core.aliases name = o.aliases name := by
  unfold aliases
  rw [events_core, List.filter_map, List.map_map]
  rfl

/-- In the core of an outline a name contributes the same. -/
lemma contribution_core (o : Outline) (name : String) :
    o.core.contribution name = o.contribution name := by
  unfold contribution
  simp only [lacksValue_core, aliases_core]

/-- The names that need a placeholder are those of the core, in the same order. -/
theorem unvalued_core (o : Outline) : o.core.unvalued = o.unvalued := by
  have contribution : o.core.contribution = o.contribution := by
    funext name
    exact contribution_core o name
  unfold unvalued
  rw [localNames_core, contribution]

/-- Outlines with the same core have the same names without a value. -/
lemma unvalued_eq_of_core {a b : Outline} (same : a.core = b.core) : a.unvalued = b.unvalued := by
  rw [← unvalued_core a, same, unvalued_core b]

/-- Statements that are rewritten one by one, each with its core kept, keep the core of the
module. -/
lemma core_flatMap {f : Statement → List Statement}
    (each : ∀ s, (ofStatements (f s)).core = s.outline.core) (S : List Statement) :
    (ofStatements (S.flatMap f)).core = (ofStatements S).core := by
  induction S with
  | nil => rfl
  | cons s S ih =>
    rw [List.flatMap_cons, ofStatements_append, core_append, each, ih, ofStatements_cons,
      core_append]

end Outline

/-- Modules whose outlines have the same core need placeholders for the same names, in the same
order. -/
lemma exportsWithNoValue_eq_of_core {S T : List Statement}
    (same : (Outline.ofStatements S).core = (Outline.ofStatements T).core) :
    (classify S).exportsWithNoValue = (classify T).exportsWithNoValue := by
  apply NameSet.ext
  rw [exportsWithNoValue_classify, exportsWithNoValue_classify]
  exact Outline.unvalued_eq_of_core same

/-! ### Exports spelled out -/

/-- The clause that exports local names under themselves. -/
def ExportClause.ofNames (names : List String) (typeOnly : Bool) : ExportClause where
  elements := names.map fun name => ⟨name, name, false⟩
  typeOnly := typeOnly

namespace StatementKind

/-- Whether a statement of this kind declares something. -/
def isDeclaration : StatementKind → Bool
  | exportClause _ | other => false
  | _ => true

/-- Whether a declaration declares a type that cannot be a value. -/
def isTypeOnly : StatementKind → Bool
  | typeAlias _ | interfaceDecl _ => true
  | _ => false

/-- The names that a declaration exports if it is exported in place. Destructured names, those of
imports and those of namespaces are none. -/
def exportable : StatementKind → List String
  | typeAlias name | interfaceDecl name | enumDecl name => [name]
  | variableDecl declarators => declarators.filterMap Declarator.identifier?
  | functionDecl name? | classDecl name? => name?.toList
  | importNames _ | exportClause _ | other => []

/-- The statements that export a declaration: a clause, or nothing if there is nothing to export. -/
def exportStatements (kind : StatementKind) : List Statement :=
  if kind.exportable.isEmpty then []
  else [{ kind := .exportClause (.ofNames kind.exportable kind.isTypeOnly) }]

end StatementKind

/-- Whether a statement is a declaration that is exported in place. -/
def Statement.isExportedInPlace (s : Statement) : Bool := s.exported && s.kind.isDeclaration

/-- A declaration that is exported in place, written as a declaration that is not and a clause that
exports it. Other statements stay as they are. -/
def Statement.spellOut (s : Statement) : List Statement :=
  if s.isExportedInPlace then { s with exported := false } :: s.kind.exportStatements else [s]

/-- The export of a local name under itself. -/
def ExportEvent.ofName (typeOnly : Bool) (name : String) : ExportEvent :=
  ⟨name, name, if typeOnly then .type else .both⟩

/-- A clause of plain names exports each of them under itself. -/
lemma ExportClause.events_ofNames (names : List String) (typeOnly : Bool) :
    (ExportClause.ofNames names typeOnly).events = names.map (.ofName typeOnly) := by
  show (names.map fun name => (⟨name, name, false⟩ : ExportElement)).map _ = _
  rw [List.map_map]
  rfl

/-- The statements that export a declaration declare nothing and export its names. -/
lemma StatementKind.outline_exportStatements (kind : StatementKind) :
    Outline.ofStatements kind.exportStatements =
      { events := kind.exportable.map (.ofName kind.isTypeOnly) } := by
  unfold exportStatements
  split
  next none =>
    rw [List.isEmpty_iff.1 none]
    rfl
  next =>
    rw [← ExportClause.events_ofNames]
    simp [Outline.ofStatements, Outline.gather, Statement.outline]

/-- Declarators that are not exported declare and bind the same, and export nothing. -/
lemma gather_declarators (declarators : List Declarator) :
    Outline.gather (Declarator.outline false) declarators =
      { Outline.gather (Declarator.outline true) declarators with events := [] } := by
  induction declarators with
  | nil => rfl
  | cons d declarators ih =>
    have keep : d.outline false = { d.outline true with events := [] } := by
      cases d with
      | identifier name => rfl
      | pattern names => rfl
    rw [Outline.gather_cons, Outline.gather_cons, keep, ih]
    rfl

/-- The exports in place of declarators are those of the plain identifiers. -/
lemma core_events_declarators (declarators : List Declarator) :
    (Outline.gather (Declarator.outline true) declarators).events.map ExportEvent.core =
      ((declarators.filterMap Declarator.identifier?).map (.ofName false)).map
        ExportEvent.core := by
  induction declarators with
  | nil => rfl
  | cons d declarators ih =>
    cases d with
    | identifier name => exact congrArg (List.cons _) ih
    | pattern names => exact ih

/-- A declaration that is not exported declares and binds the same, and exports nothing. -/
lemma Statement.outline_notExported {kind : StatementKind} (h : kind.isDeclaration = true) :
    Statement.outline ⟨kind, false⟩ = { Statement.outline ⟨kind, true⟩ with events := [] } := by
  cases kind with
  | variableDecl declarators => exact gather_declarators declarators
  | functionDecl name? => cases name? <;> rfl
  | classDecl name? => cases name? <;> rfl
  | exportClause clause => cases h
  | other => cases h
  | _ => rfl

/-- A declaration that is exported in place exports its names, up to the intents as types. -/
lemma Statement.core_events_exported {kind : StatementKind} (h : kind.isDeclaration = true) :
    (Statement.outline ⟨kind, true⟩).events.map ExportEvent.core =
      (kind.exportable.map (.ofName kind.isTypeOnly)).map ExportEvent.core := by
  -- in place, variables and functions are exported as values only, and a clause would export them
  -- as types too
  cases kind with
  | variableDecl declarators => exact core_events_declarators declarators
  | functionDecl name? => cases name? <;> rfl
  | classDecl name? => cases name? <;> rfl
  | exportClause clause => cases h
  | other => cases h
  | _ => rfl

/-- A declaration with its clause declares and binds what it did, and exports its names. -/
lemma StatementKind.outline_spelledOut {kind : StatementKind} (h : kind.isDeclaration = true) :
    Outline.ofStatements (⟨kind, false⟩ :: kind.exportStatements) =
      { Statement.outline ⟨kind, true⟩ with
        events := kind.exportable.map (.ofName kind.isTypeOnly) } := by
  rw [Outline.ofStatements_cons, Statement.outline_notExported h, kind.outline_exportStatements]
  show Outline.mk (_ ++ []) (_ ++ []) (_ ++ []) ([] ++ _) = _
  simp only [List.append_nil, List.nil_append]

/-- Spelled out, a statement declares and binds what it did, and exports the same up to the intents
as types. -/
lemma Statement.outline_spellOut (s : Statement) :
    ∃ events, Outline.ofStatements s.spellOut = { s.outline with events := events } ∧
      events.map ExportEvent.core = s.outline.events.map ExportEvent.core := by
  obtain ⟨kind, exported⟩ := s
  unfold spellOut
  split
  next h =>
    obtain ⟨rfl, declares⟩ := Bool.and_eq_true_iff.1 h
    exact ⟨_, kind.outline_spelledOut declares, (core_events_exported declares).symm⟩
  next => exact ⟨_, Outline.ofStatements_singleton _, rfl⟩

/-- A statement that is spelled out has the core that it had before. -/
lemma Statement.core_spellOut (s : Statement) :
    (Outline.ofStatements s.spellOut).core = s.outline.core := by
  obtain ⟨events, outline, same⟩ := s.outline_spellOut
  rw [outline]
  unfold Outline.core
  rw [same]

/-- A statement that is spelled out binds what it bound before. -/
lemma Statement.bound_spellOut (s : Statement) :
    (Outline.ofStatements s.spellOut).bound = s.outline.bound := by
  obtain ⟨events, outline, -⟩ := s.outline_spellOut
  rw [outline]

/-- Statements that are spelled out bind what they bound before. -/
lemma bound_flatMap_spellOut (S : List Statement) :
    (Outline.ofStatements (S.flatMap Statement.spellOut)).bound =
      (Outline.ofStatements S).bound := by
  show (S.flatMap Statement.spellOut).flatMap (·.outline.bound) = S.flatMap (·.outline.bound)
  rw [List.flatMap_assoc]
  exact List.flatMap_congr fun s _ => s.bound_spellOut

/-- Spelled out, no statement is exported in place. -/
lemma Statement.isExportedInPlace_of_mem_spellOut {s t : Statement} (mem : t ∈ s.spellOut) :
    t.isExportedInPlace = false := by
  unfold spellOut at mem
  split at mem
  next =>
    obtain rfl | mem := List.mem_cons.1 mem
    · rfl
    · unfold StatementKind.exportStatements at mem
      split at mem
      next => cases mem
      next =>
        cases List.mem_singleton.1 mem
        rfl
  next h =>
    cases List.mem_singleton.1 mem
    exact Bool.eq_false_of_not_eq_true h

/-- A module can export its declarations by clauses instead of in place. Classification finds the
same then, the order of both name sequences included. -/
theorem classify_spellOut (S : List Statement) :
    classify (S.flatMap Statement.spellOut) = classify S ∧
      (S.flatMap Statement.spellOut).any Statement.isExportedInPlace = false := by
  constructor
  · have names := exportsWithNoValue_eq_of_core (Outline.core_flatMap Statement.core_spellOut S)
    have topLevel : (classify (S.flatMap Statement.spellOut)).topLevelNames =
        (classify S).topLevelNames := by
      rw [topLevelNames_classify, bound_flatMap_spellOut, ← topLevelNames_classify]
    show Classification.mk _ _ = Classification.mk _ _
    exact congrArg₂ Classification.mk names topLevel
  · rw [List.any_eq_false]
    intro t mem
    obtain ⟨s, -, mem⟩ := List.mem_flatMap.1 mem
    rw [Statement.isExportedInPlace_of_mem_spellOut mem]
    exact Bool.false_ne_true

-- a type is exported by a clause for types, plain variables by one for values, and destructured
-- and anonymous declarations by none
example :
    [Statement.mk (.interfaceDecl "Props") true,
      ⟨.variableDecl [.identifier "a", .pattern ["b"], .identifier "c"], true⟩,
      ⟨.classDecl none, true⟩, ⟨.importNames ["ns"], true⟩].flatMap Statement.spellOut =
      [⟨.interfaceDecl "Props", false⟩, ⟨.exportClause (.ofNames ["Props"] true), false⟩,
        ⟨.variableDecl [.identifier "a", .pattern ["b"], .identifier "c"], false⟩,
        ⟨.exportClause (.ofNames ["a", "c"] false), false⟩,
        ⟨.classDecl none, false⟩, ⟨.importNames ["ns"], false⟩] := by
  decide

/-! ### Statements without influence -/

/-- The part of a statement that takes part in the decision, if there is one. Exports of another
module, imports, anonymous declarations and other statements have none; destructuring declarators
and the marks of single elements are left out. -/
def Statement.relevant? (s : Statement) : Option Statement :=
  match s.kind with
  | .exportClause clause =>
    if clause.isReexport then none
    else
      let elements := clause.elements.map fun e => { e with typeOnly := false }
      some { s with kind := .exportClause { clause with elements } }
  | .variableDecl declarators =>
    some { s with kind := .variableDecl (declarators.filter (·.identifier?.isSome)) }
  | .functionDecl none | .classDecl none | .importNames _ | .other => none
  | _ => some s

/-- The parts of the statements of a module that take part in the decision. -/
def relevant (S : List Statement) : List Statement := S.filterMap Statement.relevant?

/-- The marks of single elements do not count for the exports of a clause. -/
lemma ExportClause.events_unmarked (clause : ExportClause) :
    ExportClause.events
        { clause with elements := clause.elements.map fun e => { e with typeOnly := false } } =
      clause.events := by
  unfold events
  rw [List.map_map]
  rfl

/-- Destructured names do not count for the core of declarators. -/
lemma core_identifiers (exported : Bool) (declarators : List Declarator) :
    (Outline.gather (Declarator.outline exported)
        (declarators.filter (·.identifier?.isSome))).core =
      (Outline.gather (Declarator.outline exported) declarators).core := by
  induction declarators with
  | nil => rfl
  | cons d declarators ih =>
    rw [Outline.gather_cons, Outline.core_append, ← ih]
    cases d with
    | identifier name =>
      rw [List.filter_cons_of_pos rfl, Outline.gather_cons, Outline.core_append]
    | pattern names => rfl

/-- The relevant part of a statement has the core of the statement. -/
lemma Statement.core_relevant (s : Statement) :
    (Outline.ofStatements s.relevant?.toList).core = s.outline.core := by
  obtain ⟨kind, exported⟩ := s
  -- what is kept as it is has the outline that it had
  have keep : ∀ s : Statement, (Outline.ofStatements [s]).core = s.outline.core := by
    intro s
    rw [Outline.ofStatements_singleton]
  cases kind with
  | exportClause clause =>
    unfold relevant?
    dsimp only
    split
    next foreign =>
      have none : clause.events = [] := if_pos foreign
      show Outline.core {} = Outline.core { events := clause.events }
      rw [none]
    next =>
      refine (keep _).trans ?_
      show Outline.core { events := ExportClause.events _ } = Outline.core { events := _ }
      rw [clause.events_unmarked]
  | variableDecl declarators => exact (keep _).trans (core_identifiers exported declarators)
  | functionDecl name? =>
    cases name? with
    | none => rfl
    | some name => exact keep _
  | classDecl name? =>
    cases name? with
    | none => rfl
    | some name => exact keep _
  | importNames names => rfl
  | other => rfl
  | typeAlias name => exact keep _
  | interfaceDecl name => exact keep _
  | enumDecl name => exact keep _

/-- The relevant parts of the statements have the core of the module. -/
lemma core_ofStatements_relevant (S : List Statement) :
    (Outline.ofStatements (relevant S)).core = (Outline.ofStatements S).core := by
  unfold relevant
  rw [List.filterMap_eq_flatMap_toList]
  exact Outline.core_flatMap Statement.core_relevant S

/-- The names that need a placeholder, and their order, are decided by the relevant parts of the
statements. So modules with the same relevant parts need placeholders for the same names, whatever
else they mention. -/
theorem exportsWithNoValue_relevant (S : List Statement) :
    (classify (relevant S)).exportsWithNoValue = (classify S).exportsWithNoValue ∧
      ∀ T, relevant S = relevant T →
        (classify S).exportsWithNoValue = (classify T).exportsWithNoValue := by
  refine ⟨exportsWithNoValue_eq_of_core (core_ofStatements_relevant S), fun T same => ?_⟩
  apply exportsWithNoValue_eq_of_core
  rw [← core_ofStatements_relevant S, same, core_ofStatements_relevant T]

/-- A type that is exported, among statements that mention its name as an import, as a destructured
name and as a name of another module: it needs a placeholder as it does among statements that do
not. -/
theorem exportsWithNoValue_relevant_same_name :
    let S : List Statement :=
      [⟨.typeAlias "A", false⟩, ⟨.variableDecl [.pattern ["b"]], false⟩, ⟨.other, false⟩,
        ⟨.exportClause { elements := [⟨"A", "A", true⟩] }, false⟩]
    let T : List Statement :=
      [⟨.importNames ["A"], false⟩, ⟨.typeAlias "A", false⟩,
        ⟨.exportClause { elements := [⟨"A", "B", false⟩], specifier? := some "A" }, false⟩,
        ⟨.variableDecl [.pattern ["A"]], false⟩,
        ⟨.exportClause { elements := [⟨"A", "A", false⟩] }, false⟩]
    relevant S = relevant T ∧
      (classify (relevant S)).exportsWithNoValue = (classify S).exportsWithNoValue ∧
      (classify S).exportsWithNoValue = (classify T).exportsWithNoValue ∧
      (classify T).names = ["A"] := by
  intro S T
  obtain ⟨kept, agree⟩ := exportsWithNoValue_relevant S
  have same : relevant S = relevant T := by decide
  exact ⟨same, kept, agree T same, by decide⟩

end PlaceholderExports
