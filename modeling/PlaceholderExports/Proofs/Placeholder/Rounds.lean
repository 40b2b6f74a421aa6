import PlaceholderExports.Proofs.Classification.Declarative
import PlaceholderExports.Proofs.Placeholder.Freshness

/-!
# Appending placeholders

The snippet of a placeholder stands for two statements: a constant, and a clause that exports it
under every name that needs one. Appended to the module they were made for, they interfere with
nothing: the constant is a value under a name that no type has, so it takes part in no decision, and
the decisions on all other names are as before (`Outline.unvalued_append`). The same names need a
placeholder again, and the next one has another name.

`placeholder_rounds` says this of one round and of any number of rounds.
-/

namespace PlaceholderExports

/-- The statements that the snippet of a placeholder stands for: a constant, and a clause that
exports it under every name. -/
def Placeholder.statements (names : List String) (placeholder : String) : List Statement :=
  [{ kind := .variableDecl [.identifier placeholder] },
   { kind := .exportClause { elements := names.map fun name => ⟨placeholder, name, false⟩ } }]

/-- A module with the statements of its placeholder. -/
def appendPlaceholder (base : String) (S : List Statement) : List Statement :=
  S ++ Placeholder.statements (classify S).names ((classify S).placeholder base)

namespace Outline

/-- The constant is a value, and all exports are exports of it. -/
lemma ofStatements_placeholder (names : List String) (placeholder : String) :
    ofStatements (Placeholder.statements names placeholder) =
      { values := [placeholder], bound := [placeholder],
        events := names.map fun name => ⟨placeholder, name, .both⟩ } := by
  have clause : ExportClause.events
      { elements := names.map fun name => ⟨placeholder, name, false⟩ } =
        names.map fun name => ⟨placeholder, name, .both⟩ := by
    simp [ExportClause.events, ExportClause.isReexport]
  simp [Placeholder.statements, ofStatements, gather, Statement.outline, Declarator.outline,
    ExportEvent.inPlace, clause]

/-- Every name that is declared as a type is bound. -/
lemma types_subset_bound (S : List Statement) :
    ∀ name ∈ (ofStatements S).types, name ∈ (ofStatements S).bound := by
  intro name mem
  obtain ⟨⟨kind, exported⟩, hs, mem⟩ := List.mem_flatMap.1 mem
  refine List.mem_flatMap.2 ⟨⟨kind, exported⟩, hs, ?_⟩
  cases kind with
  | typeAlias _ => exact mem
  | interfaceDecl _ => exact mem
  | variableDecl declarators =>
    obtain ⟨d, -, mem⟩ := List.mem_flatMap.1 mem
    cases d with
    | identifier _ => cases mem
    | pattern _ => cases mem
  | functionDecl name? =>
    cases name? with
    | none => cases mem
    | some _ => cases mem
  | classDecl name? =>
    cases name? with
    | none => cases mem
    | some _ => exact mem
  | enumDecl _ => exact mem
  | exportClause _ => cases mem
  | importNames _ => cases mem
  | other => cases mem

/-! ### Values under a name of their own -/

/-- An outline that declares one name as a value and exports nothing else. -/
structure IsConstant (o : Outline) (name : String) : Prop where
  types : o.types = []
  values : ∀ n ∈ o.values, n = name
  events : ∀ e ∈ o.events, e.localName = name

variable {o constant : Outline} {placeholder : String}

/-- A constant under a name that is no type lets every other name lack a value as before. -/
lemma lacksValue_append (isConstant : constant.IsConstant placeholder)
    (fresh : placeholder ∉ o.types) (name : String) :
    (o ++ constant).LacksValue name ↔ o.LacksValue name := by
  unfold LacksValue
  rw [types_append, values_append, events_append, isConstant.types, List.append_nil]
  by_cases h : name = placeholder
  · subst h
    exact ⟨fun lacks => absurd lacks.1 fresh, fun lacks => absurd lacks.1 fresh⟩
  · have values : name ∈ o.values ++ constant.values ↔ name ∈ o.values := by
      rw [List.mem_append]
      exact or_iff_left fun mem => h (isConstant.values name mem)
    have events : (∃ e ∈ o.events ++ constant.events,
          e.localName = name ∧ e.intent.asValue = true) ↔
        ∃ e ∈ o.events, e.localName = name ∧ e.intent.asValue = true := by
      constructor
      · rintro ⟨e, mem, rfl, asValue⟩
        rcases List.mem_append.1 mem with mem | mem
        · exact ⟨e, mem, rfl, asValue⟩
        · exact absurd (isConstant.events e mem) h
      · rintro ⟨e, mem, eq, asValue⟩
        exact ⟨e, List.mem_append_left _ mem, eq, asValue⟩
    rw [values, events]

/-- A constant under a name that is no type contributes nothing, and every other name contributes
what it did. -/
lemma contribution_append (isConstant : constant.IsConstant placeholder)
    (fresh : placeholder ∉ o.types) (name : String) :
    (o ++ constant).contribution name = o.contribution name := by
  unfold contribution
  simp only [lacksValue_append isConstant fresh]
  by_cases h : name = placeholder
  · subst h
    have noType : ¬ o.LacksValue name := fun lacks => fresh lacks.1
    rw [if_neg noType, if_neg noType]
  · have none : constant.events.filter (·.localName = name) = [] := by
      rw [List.filter_eq_nil_iff]
      intro e mem eq
      apply h
      rw [← isConstant.events e mem]
      exact (of_decide_eq_true eq).symm
    have same : (o ++ constant).aliases name = o.aliases name := by
      unfold aliases
      rw [events_append, List.filter_append, none, List.append_nil]
    rw [same]

/-- A constant under a name that is no type leaves the names that need a placeholder, in their
order. -/
theorem unvalued_append (isConstant : constant.IsConstant placeholder)
    (fresh : placeholder ∉ o.types) : (o ++ constant).unvalued = o.unvalued := by
  -- the local names that are new all equal the placeholder
  have localNames : (o ++ constant).localNames =
      o.localNames ++ ((constant.events.map (·.localName)).removeAll
        (o.events.map (·.localName))).eraseDups := by
    unfold Outline.localNames
    rw [events_append, List.map_append, List.eraseDups_append]
  have new : ((constant.events.map (·.localName)).removeAll
      (o.events.map (·.localName))).eraseDups.flatMap o.contribution = [] := by
    rw [List.flatMap_eq_nil_iff]
    intro name mem
    have mem := (List.mem_filter.1 (List.mem_eraseDups.1 mem)).1
    obtain ⟨e, he, rfl⟩ := List.mem_map.1 mem
    rw [isConstant.events e he]
    exact if_neg fun lacks => fresh lacks.1
  have contribution : (o ++ constant).contribution = o.contribution := by
    funext name
    exact contribution_append isConstant fresh name
  unfold unvalued
  rw [contribution, localNames, List.flatMap_append, new, List.append_nil]

end Outline

/-! ### Rounds -/

variable (base : String) (S : List Statement)

/-- The statements of a placeholder declare a constant. -/
lemma isConstant_placeholder (names : List String) (placeholder : String) :
    (Outline.ofStatements (Placeholder.statements names placeholder)).IsConstant placeholder := by
  rw [Outline.ofStatements_placeholder]
  refine ⟨rfl, fun n mem => List.mem_singleton.1 mem, fun e mem => ?_⟩
  obtain ⟨name, -, rfl⟩ := List.mem_map.1 mem
  rfl

/-- The placeholder of a module is no top-level name of it. -/
lemma placeholder_notMem_topLevelNames :
    (classify S).placeholder base ∉ (classify S).topLevelNames :=
  Placeholder.identifier_notMem base _

/-- The placeholder of a module is bound by none of its statements. -/
lemma placeholder_notMem_bound :
    (classify S).placeholder base ∉ (Outline.ofStatements S).bound := by
  rw [← mem_topLevelNames_iff]
  exact placeholder_notMem_topLevelNames base S

/-- After a round the same names need a placeholder, in the same order. -/
lemma exportsWithNoValue_appendPlaceholder :
    (classify (appendPlaceholder base S)).exportsWithNoValue = (classify S).exportsWithNoValue := by
  apply NameSet.ext
  unfold appendPlaceholder
  rw [exportsWithNoValue_classify, exportsWithNoValue_classify, Outline.ofStatements_append]
  apply Outline.unvalued_append (isConstant_placeholder _ _)
  intro mem
  exact placeholder_notMem_bound base S (Outline.types_subset_bound S _ mem)

/-- After a round the placeholder is a top-level name, behind all others. -/
lemma topLevelNames_appendPlaceholder :
    (classify (appendPlaceholder base S)).topLevelNames.toList =
      (classify S).topLevelNames.toList ++ [(classify S).placeholder base] := by
  have bound : (Outline.ofStatements (appendPlaceholder base S)).bound =
      (Outline.ofStatements S).bound ++ [(classify S).placeholder base] := by
    unfold appendPlaceholder
    rw [Outline.ofStatements_append, Outline.ofStatements_placeholder]
    rfl
  rw [topLevelNames_classify, bound, NameSet.ofList_append, ← topLevelNames_classify]
  exact NameSet.toList_add_of_notMem (placeholder_notMem_topLevelNames base S)

/-- The placeholders of the first rounds. -/
def roundPlaceholders (k : Nat) : List String :=
  (List.range k).map fun i => (classify ((appendPlaceholder base)^[i] S)).placeholder base

/-- After any number of rounds the same names need a placeholder. -/
lemma exportsWithNoValue_rounds (k : Nat) :
    (classify ((appendPlaceholder base)^[k] S)).exportsWithNoValue =
      (classify S).exportsWithNoValue := by
  induction k with
  | zero => rfl
  | succ k ih =>
    rw [Function.iterate_succ_apply', exportsWithNoValue_appendPlaceholder]
    exact ih

/-- After any number of rounds the placeholders of the rounds are the new top-level names. -/
lemma topLevelNames_rounds (k : Nat) :
    (classify ((appendPlaceholder base)^[k] S)).topLevelNames.toList =
      (classify S).topLevelNames.toList ++ roundPlaceholders base S k := by
  induction k with
  | zero => exact (List.append_nil _).symm
  | succ k ih =>
    rw [Function.iterate_succ_apply', topLevelNames_appendPlaceholder, ih, List.append_assoc]
    unfold roundPlaceholders
    rw [List.range_succ, List.map_append]
    rfl

/-- The placeholder of a module is bound by none of its statements. With the statements of its
placeholder the module needs a placeholder for the same names, and binds the placeholder behind the
names that it bound. So any number of rounds uses distinct placeholders and finds the same names. -/
theorem placeholder_rounds :
    (classify S).placeholder base ∉ (Outline.ofStatements S).bound ∧
      (classify (appendPlaceholder base S)).exportsWithNoValue =
        (classify S).exportsWithNoValue ∧
      (classify (appendPlaceholder base S)).topLevelNames.toList =
        (classify S).topLevelNames.toList ++ [(classify S).placeholder base] ∧
      ∀ k, (roundPlaceholders base S k).Nodup ∧
        (classify ((appendPlaceholder base)^[k] S)).exportsWithNoValue =
          (classify S).exportsWithNoValue := by
  refine ⟨placeholder_notMem_bound base S, exportsWithNoValue_appendPlaceholder base S,
    topLevelNames_appendPlaceholder base S, fun k => ⟨?_, exportsWithNoValue_rounds base S k⟩⟩
  -- the placeholders of the rounds are part of a list without repeats
  have nodup := (classify ((appendPlaceholder base)^[k] S)).topLevelNames.nodup
  rw [topLevelNames_rounds] at nodup
  exact (List.nodup_append.1 nodup).2.1

end PlaceholderExports
