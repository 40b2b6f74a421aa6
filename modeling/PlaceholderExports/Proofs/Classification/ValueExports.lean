import PlaceholderExports.Proofs.Classification.Declarative

/-!
# Exports of values

A placeholder is exported beside the exports of the module, so a name that gets one must not leave
the module as a value already. A name leaves as a value if a declaration that binds it at run time
is exported in place, or if a clause that is not for types alone exports a local name that is bound
at run time (`valueExports`).

Where every exported name stands for one local name, no name that needs a placeholder is exported
as a value of a plain variable, a function, a class or an enumeration
(`unvalued_notMem_valueExports`). Destructured names are no values for the classification, and a
type under such a name is given a placeholder beside the value (`unvalued_destructured`).
-/

namespace PlaceholderExports

/-- The names that a statement binds at run time, destructured ones included. -/
def Statement.runtimeNames (s : Statement) : List String :=
  match s.kind with
  | .variableDecl declarators => declarators.flatMap Declarator.boundNames
  | .functionDecl (some name) | .classDecl (some name) | .enumDecl name => [name]
  | _ => []

/-- The names that a statement binds at run time without taking a value apart. -/
def Statement.plainNames (s : Statement) : List String := s.outline.values

/-- The exports of a clause, each as a local name and the name that importers see. -/
def ExportClause.pairs (clause : ExportClause) : List (String × String) :=
  if clause.isReexport then [] else clause.elements.map fun e => (e.localName, e.exportedName)

/-- The exports of a statement, those of all names that it binds if it is exported itself. -/
def Statement.exportPairs (s : Statement) : List (String × String) :=
  match s.kind with
  | .exportClause clause => clause.pairs
  | _ => if s.exported then s.outline.bound.map fun name => (name, name) else []

/-- The exports of a module. -/
def exportPairs (S : List Statement) : List (String × String) := S.flatMap Statement.exportPairs

/-- The exports of a statement as values, when some names of the module are bound at run time. -/
def Statement.valueExports (binds : Statement → List String) (bound : List String)
    (s : Statement) : List (String × String) :=
  match s.kind with
  | .exportClause clause => if clause.typeOnly then [] else clause.pairs.filter (·.1 ∈ bound)
  | _ => if s.exported then (binds s).map fun name => (name, name) else []

/-- The exports of a module as values, for one notion of what a statement binds at run time. -/
def valueExports (binds : Statement → List String) (S : List Statement) : List (String × String) :=
  S.flatMap (Statement.valueExports binds (S.flatMap binds))

/-- Every exported name stands for one local name. -/
def ExportsAreSingle (S : List Statement) : Prop :=
  ∀ a ∈ exportPairs S, ∀ b ∈ exportPairs S, a.2 = b.2 → a.1 = b.1

instance (S : List Statement) : Decidable (ExportsAreSingle S) :=
  inferInstanceAs (Decidable (∀ _ ∈ _, ∀ _ ∈ _, _ → _))

/-! ### Exports and their events -/

/-- What is exported in place has the name of the declaration. -/
lemma mem_inPlace {exported : Bool} {intent : Intent} {name : String} {e : ExportEvent} :
    e ∈ ExportEvent.inPlace exported intent name ↔ exported = true ∧ e = ⟨name, name, intent⟩ := by
  unfold ExportEvent.inPlace
  cases exported <;> simp

/-- The pairs of a clause are those of its elements, unless it exports from elsewhere. -/
lemma mem_pairs {clause : ExportClause} {pair : String × String} :
    pair ∈ clause.pairs ↔
      clause.isReexport = false ∧
        ∃ e ∈ clause.elements, (e.localName, e.exportedName) = pair := by
  unfold ExportClause.pairs
  cases clause.isReexport <;> simp

/-- What is recorded for a statement is an export of it. -/
lemma Statement.pair_mem_exportPairs {s : Statement} {e : ExportEvent} (h : e ∈ s.outline.events) :
    (e.localName, e.exportedName) ∈ s.exportPairs := by
  obtain ⟨kind, exported⟩ := s
  -- a declaration that is exported in place is exported under the name that it binds
  have inPlace : ∀ {intent : Intent} {name : String} {bound : List String}, name ∈ bound →
      e ∈ ExportEvent.inPlace exported intent name →
      (e.localName, e.exportedName) ∈ if exported then bound.map fun n => (n, n) else [] := by
    intro intent name bound mem recorded
    obtain ⟨rfl, rfl⟩ := mem_inPlace.1 recorded
    exact List.mem_map_of_mem mem
  cases kind with
  | typeAlias name => exact inPlace (List.mem_singleton_self name) h
  | interfaceDecl name => exact inPlace (List.mem_singleton_self name) h
  | variableDecl declarators =>
    obtain ⟨d, hd, h⟩ := List.mem_flatMap.1 h
    cases d with
    | identifier name =>
      exact inPlace (List.mem_flatMap.2 ⟨_, hd, List.mem_singleton_self name⟩) h
    | pattern names => cases h
  | functionDecl name? =>
    cases name? with
    | none => cases h
    | some name => exact inPlace (List.mem_singleton_self name) h
  | classDecl name? =>
    cases name? with
    | none => cases h
    | some name => exact inPlace (List.mem_singleton_self name) h
  | enumDecl name => exact inPlace (List.mem_singleton_self name) h
  | exportClause clause =>
    have h : e ∈ clause.events := h
    unfold ExportClause.events at h
    cases foreign : clause.isReexport with
    | true =>
      rw [foreign] at h
      cases h
    | false =>
      rw [foreign] at h
      obtain ⟨element, mem, rfl⟩ := List.mem_map.1 h
      exact mem_pairs.2 ⟨foreign, element, mem, rfl⟩
  | importNames names => cases h
  | other => cases h

/-- What is recorded for a module is an export of it. -/
lemma pair_mem_exportPairs {S : List Statement} {e : ExportEvent}
    (h : e ∈ (Outline.ofStatements S).events) :
    (e.localName, e.exportedName) ∈ exportPairs S := by
  obtain ⟨s, hs, h⟩ := List.mem_flatMap.1 h
  exact List.mem_flatMap.2 ⟨s, hs, Statement.pair_mem_exportPairs h⟩

/-- A declaration that is exported in place is recorded as the export of a value for every name that
it binds plainly. -/
lemma Statement.exists_event_of_plainNames {s : Statement} {name : String}
    (exported : s.exported = true) (h : name ∈ s.plainNames) :
    (name, name) ∈ s.exportPairs ∧
      ∃ e ∈ s.outline.events, e.localName = name ∧ e.intent.asValue = true := by
  -- the pair is that of the event
  suffices event : ∃ e ∈ s.outline.events,
      e.localName = name ∧ e.exportedName = name ∧ e.intent.asValue = true by
    obtain ⟨e, he, rfl, same, asValue⟩ := event
    have pair := pair_mem_exportPairs he
    rw [same] at pair
    exact ⟨pair, e, he, rfl, asValue⟩
  obtain ⟨kind, _⟩ := s
  cases exported
  cases kind with
  | typeAlias _ => cases h
  | interfaceDecl _ => cases h
  | variableDecl declarators =>
    obtain ⟨d, hd, h⟩ := List.mem_flatMap.1 h
    cases d with
    | pattern _ => cases h
    | identifier name' =>
      cases List.mem_singleton.1 h
      refine ⟨⟨name, name, .value⟩, List.mem_flatMap.2 ⟨_, hd, ?_⟩, rfl, rfl, rfl⟩
      exact mem_inPlace.2 ⟨rfl, rfl⟩
  | functionDecl name? =>
    cases name? with
    | none => cases h
    | some name' =>
      cases List.mem_singleton.1 h
      exact ⟨⟨name, name, .value⟩, mem_inPlace.2 ⟨rfl, rfl⟩, rfl, rfl, rfl⟩
  | classDecl name? =>
    cases name? with
    | none => cases h
    | some name' =>
      cases List.mem_singleton.1 h
      exact ⟨⟨name, name, .both⟩, mem_inPlace.2 ⟨rfl, rfl⟩, rfl, rfl, rfl⟩
  | enumDecl name' =>
    cases List.mem_singleton.1 h
    exact ⟨⟨name, name, .both⟩, mem_inPlace.2 ⟨rfl, rfl⟩, rfl, rfl, rfl⟩
  | exportClause _ => cases h
  | importNames _ => cases h
  | other => cases h

/-- A clause that is not for types alone records its elements as exports of values. -/
lemma ExportClause.exists_event {clause : ExportClause} {pair : String × String}
    (values : clause.typeOnly = false) (h : pair ∈ clause.pairs) :
    ∃ e ∈ clause.events, e.localName = pair.1 ∧ e.intent.asValue = true := by
  obtain ⟨own, element, mem, rfl⟩ := mem_pairs.1 h
  refine ⟨⟨element.localName, element.exportedName, .both⟩, ?_, rfl, rfl⟩
  unfold ExportClause.events
  rw [own, values]
  exact List.mem_map_of_mem mem

/-- An export as a value of a plain name is an export, and its local name is declared and exported
as a value. -/
lemma of_mem_valueExports {S : List Statement} {localName exported : String}
    (h : (localName, exported) ∈ valueExports Statement.plainNames S) :
    (localName, exported) ∈ exportPairs S ∧ localName ∈ (Outline.ofStatements S).values ∧
      ∃ e ∈ (Outline.ofStatements S).events,
        e.localName = localName ∧ e.intent.asValue = true := by
  obtain ⟨s, hs, h⟩ := List.mem_flatMap.1 h
  -- it is enough to find the export and its event in the one statement
  suffices here : (localName, exported) ∈ s.exportPairs ∧
      localName ∈ (Outline.ofStatements S).values ∧
      ∃ e ∈ s.outline.events, e.localName = localName ∧ e.intent.asValue = true by
    obtain ⟨pair, value, e, he, same⟩ := here
    exact ⟨List.mem_flatMap.2 ⟨s, hs, pair⟩, value, e, List.mem_flatMap.2 ⟨s, hs, he⟩, same⟩
  cases kind : s.kind with
  | exportClause clause =>
    have events : s.outline.events = clause.events := by
      unfold Statement.outline
      rw [kind]
    have pairs : s.exportPairs = clause.pairs := by
      unfold Statement.exportPairs
      rw [kind]
    unfold Statement.valueExports at h
    rw [kind] at h
    dsimp only at h
    cases values : clause.typeOnly with
    | true =>
      rw [values] at h
      cases h
    | false =>
      rw [values] at h
      obtain ⟨mem, bound⟩ := List.mem_filter.1 h
      rw [pairs, events]
      exact ⟨mem, of_decide_eq_true bound, clause.exists_event values mem⟩
  | _ =>
    unfold Statement.valueExports at h
    rw [kind] at h
    dsimp only at h
    cases inPlace : s.exported with
    | false =>
      rw [inPlace] at h
      cases h
    | true =>
      rw [inPlace] at h
      obtain ⟨name, mem, same⟩ := List.mem_map.1 h
      cases same
      obtain ⟨pair, event⟩ := Statement.exists_event_of_plainNames inPlace mem
      exact ⟨pair, List.mem_flatMap.2 ⟨s, hs, mem⟩, event⟩

/-! ### Placeholders beside values -/

/-- Where every exported name stands for one local name, no name that needs a placeholder is
exported as a value that is bound plainly: by a variable, a function, a class or an enumeration that
is exported in place, or by such a declaration and a clause that is not for types alone. -/
theorem unvalued_notMem_valueExports {S : List Statement} (single : ExportsAreSingle S)
    {name : String} (h : name ∈ (classify S).exportsWithNoValue) (localName : String) :
    (localName, name) ∉ valueExports Statement.plainNames S := by
  intro mem
  obtain ⟨pair, value, exported⟩ := of_mem_valueExports mem
  obtain ⟨e, he, rfl, lacks⟩ := mem_exportsWithNoValue_iff.1 h
  have same : localName = e.localName := single _ pair _ (pair_mem_exportPairs he) rfl
  rw [same] at value exported
  exact lacks.2 ⟨value, exported⟩

/-- A type under another name, beside a function that is exported with a type of its name: the
alias needs a placeholder and is no value, the function is one and needs none. -/
theorem unvalued_notMem_valueExports_alias :
    let S : List Statement :=
      [⟨.interfaceDecl "Shape", false⟩, ⟨.functionDecl (some "make"), true⟩,
        ⟨.typeAlias "make", true⟩,
        ⟨.exportClause { elements := [⟨"Shape", "Form", false⟩, ⟨"make", "make", false⟩] }, false⟩]
    ExportsAreSingle S ∧ "Form" ∈ (classify S).exportsWithNoValue ∧
      valueExports Statement.plainNames S = [("make", "make"), ("make", "make")] ∧
      ∀ localName, (localName, "Form") ∉ valueExports Statement.plainNames S := by
  intro S
  have single : ExportsAreSingle S := by decide
  have found : "Form" ∈ (classify S).exportsWithNoValue := by decide
  exact ⟨single, found, by decide, unvalued_notMem_valueExports single found⟩

/-- A type and a destructured variable of one name, exported by a clause or in place: the name needs
a placeholder, although it is exported as a value. -/
theorem unvalued_destructured :
    let byClause : List Statement :=
      [⟨.typeAlias "a", false⟩, ⟨.variableDecl [.pattern ["a"]], false⟩,
        ⟨.exportClause { elements := [⟨"a", "a", false⟩] }, false⟩]
    let inPlace : List Statement :=
      [⟨.typeAlias "a", true⟩, ⟨.variableDecl [.pattern ["a"]], true⟩]
    ∀ S ∈ [byClause, inPlace],
      ExportsAreSingle S ∧ "a" ∈ (classify S).exportsWithNoValue ∧
        ("a", "a") ∈ valueExports Statement.runtimeNames S := by
  decide

end PlaceholderExports
