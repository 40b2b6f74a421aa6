import PlaceholderExports.Proofs.Classification.Table

/-!
# What classification finds

The result of a classification, said of the outline of the module and without a classifier. A name
needs a placeholder if it is an alias of a local name that is declared as a type and is not both
declared and exported as a value (`Outline.LacksValue`); the local names go in the order of their
first exports and the aliases of each in the order of its own (`Outline.unvalued`).

`classify_eq_outline` is the equality of the two; `mem_exportsWithNoValue_iff` forgets the order.
-/

namespace PlaceholderExports

namespace Outline

/-- A local name lacks a value if it is declared as a type and is not both declared as a value and
exported as one, be it under another alias. -/
def LacksValue (o : Outline) (name : String) : Prop :=
  name ∈ o.types ∧
    ¬ (name ∈ o.values ∧ ∃ e ∈ o.events, e.localName = name ∧ e.intent.asValue = true)

instance (o : Outline) (name : String) : Decidable (o.LacksValue name) :=
  inferInstanceAs (Decidable (_ ∧ ¬ (_ ∧ _)))

/-- The exported local names, in the order of their first exports. -/
def localNames (o : Outline) : List String := (o.events.map (·.localName)).eraseDups

/-- The names under which a local name is exported, in the order of their first appearance. -/
def aliases (o : Outline) (name : String) : List String :=
  ((o.events.filter (·.localName = name)).map (·.exportedName)).eraseDups

/-- What a local name adds to the names that need a placeholder. -/
def contribution (o : Outline) (name : String) : List String :=
  if o.LacksValue name then o.aliases name else []

/-- The names that need a placeholder. An alias of two local names comes where it comes first. -/
def unvalued (o : Outline) : List String := (o.localNames.flatMap o.contribution).eraseDups

/-- The local names of an outline are those of its exports. -/
lemma mem_localNames {o : Outline} {name : String} :
    name ∈ o.localNames ↔ ∃ e ∈ o.events, e.localName = name := by
  unfold localNames
  rw [List.mem_eraseDups]
  exact List.mem_map

/-- The aliases of a name are the names under which it is exported. -/
lemma mem_aliases {o : Outline} {name exported : String} :
    exported ∈ o.aliases name ↔
      ∃ e ∈ o.events, e.localName = name ∧ e.exportedName = exported := by
  unfold aliases
  rw [List.mem_eraseDups]
  simp [and_assoc]

/-- A name contributes its aliases, if it lacks a value. -/
lemma mem_contribution {o : Outline} {name exported : String} :
    exported ∈ o.contribution name ↔ o.LacksValue name ∧ exported ∈ o.aliases name := by
  unfold contribution
  by_cases h : o.LacksValue name
  · simp [h]
  · simp [h]

/-- A name needs a placeholder if it is exported for a local name that lacks a value. -/
lemma mem_unvalued {o : Outline} {exported : String} :
    exported ∈ o.unvalued ↔
      ∃ e ∈ o.events, e.exportedName = exported ∧ o.LacksValue e.localName := by
  unfold unvalued
  rw [List.mem_eraseDups, List.mem_flatMap]
  constructor
  · rintro ⟨name, -, h⟩
    obtain ⟨lacks, h⟩ := mem_contribution.1 h
    obtain ⟨e, he, rfl, rfl⟩ := mem_aliases.1 h
    exact ⟨e, he, rfl, lacks⟩
  · rintro ⟨e, he, rfl, lacks⟩
    refine ⟨e.localName, mem_localNames.2 ⟨e, he, rfl⟩, ?_⟩
    exact mem_contribution.2 ⟨lacks, mem_aliases.2 ⟨e, he, rfl, rfl⟩⟩

end Outline

namespace Classifier

/-- The classifier that has gathered an outline. -/
def ofOutline (o : Outline) : Classifier where
  types := .ofList o.types
  values := .ofList o.values
  exports := .ofEvents o.events
  topLevelNames := .ofList o.bound

/-- A pass over the statements of a module ends with their outline gathered. -/
theorem run_eq_ofOutline (S : List Statement) : run S = ofOutline (.ofStatements S) := by
  rw [run_eq]
  unfold absorb ofOutline
  rw [← ExportTable.recordAll_eq]
  rfl

/-- The decision on a local name, taken from its record, is that of the outline. -/
lemma lacksValue_ofOutline (o : Outline) (name : String) :
    (ofOutline o).lacksValue name (.ofEvents (o.events.filter (·.localName = name))) =
      decide (o.LacksValue name) := by
  have exported : (o.events.filter (·.localName = name)).any (·.intent.asValue) =
      decide (∃ e ∈ o.events, e.localName = name ∧ e.intent.asValue = true) := by
    rw [Bool.eq_iff_iff]
    simp
  unfold lacksValue ofOutline
  rw [ExportRecord.asValue_ofEvents, exported, Bool.eq_iff_iff, decide_eq_true_iff]
  simp only [Bool.and_eq_true, Bool.not_eq_true', ← Bool.not_eq_true, decide_eq_true_iff,
    NameSet.mem_ofList]
  rw [and_comm (a := ∃ e ∈ _, _)]
  exact Iff.rfl

/-- The names found in an outline, by local name and then by alias. -/
lemma unvaluedNames_ofOutline (o : Outline) :
    (ofOutline o).unvaluedNames = o.localNames.flatMap o.contribution := by
  show (o.localNames.map fun name =>
    (name, ExportRecord.ofEvents (o.events.filter (·.localName = name)))).flatMap _ = _
  rw [List.flatMap_map]
  apply List.flatMap_congr
  intro name _
  dsimp only
  rw [lacksValue_ofOutline, ExportRecord.aliases_ofEvents, NameSet.toList_ofList]
  unfold Outline.contribution Outline.aliases
  simp only [decide_eq_true_eq]

end Classifier

/-- The names that need a placeholder are those of the outline, in its order. -/
lemma exportsWithNoValue_classify (S : List Statement) :
    (classify S).exportsWithNoValue.toList = (Outline.ofStatements S).unvalued := by
  show (NameSet.ofList (Classifier.run S).unvaluedNames).toList = _
  rw [NameSet.toList_ofList, Classifier.run_eq_ofOutline, Classifier.unvaluedNames_ofOutline]
  rfl

/-- The top-level names are those bound by the statements. -/
lemma topLevelNames_classify (S : List Statement) :
    (classify S).topLevelNames = NameSet.ofList (Outline.ofStatements S).bound := by
  show (Classifier.run S).topLevelNames = _
  rw [Classifier.run_eq_ofOutline]
  rfl

/-- Classification finds what the outline of the module says: both name sequences, their order
included, are those read off the declarations and exports of the statements. -/
theorem classify_eq_outline (S : List Statement) :
    (classify S).exportsWithNoValue.toList = (Outline.ofStatements S).unvalued ∧
      (classify S).topLevelNames.toList = (Outline.ofStatements S).bound.eraseDups := by
  refine ⟨exportsWithNoValue_classify S, ?_⟩
  rw [topLevelNames_classify, NameSet.toList_ofList]

/-- A name needs a placeholder if it is exported for a local name that lacks a value. -/
lemma mem_exportsWithNoValue_iff {S : List Statement} {exported : String} :
    exported ∈ (classify S).exportsWithNoValue ↔
      ∃ e ∈ (Outline.ofStatements S).events,
        e.exportedName = exported ∧ (Outline.ofStatements S).LacksValue e.localName := by
  rw [NameSet.mem_def, exportsWithNoValue_classify]
  exact Outline.mem_unvalued

/-- A name is a top-level name if a statement binds it. -/
lemma mem_topLevelNames_iff {S : List Statement} {name : String} :
    name ∈ (classify S).topLevelNames ↔ name ∈ (Outline.ofStatements S).bound := by
  rw [topLevelNames_classify]
  exact NameSet.mem_ofList

end PlaceholderExports
