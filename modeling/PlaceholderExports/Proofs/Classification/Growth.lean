import PlaceholderExports.Proofs.Classification.Declarative

/-!
# Modules that grow

What is declared and exported only grows with more statements, but the names that need a placeholder
do not: a type can bring in aliases that were exported long before, and a value can withdraw names
that were found. Still, every change has its cause in something that is new.

* A name that comes in is an alias of a local name that has become a type or has been given this
  alias (`Outline.cause_of_new`).
* A name that goes had come from local names alone that have become values or have been exported as
  such (`Outline.cause_of_withdrawn`).
* A local name that is declared and exported as a value stays so, and adds no name any more
  (`Outline.HasValue.append`).

`classify_growth` says this of classifications.
-/

namespace PlaceholderExports

namespace Outline

/-- A local name is exported as a value, under whatever alias. -/
def ExportsValue (o : Outline) (name : String) : Prop :=
  ∃ e ∈ o.events, e.localName = name ∧ e.intent.asValue = true

/-- A local name is declared as a value and exported as one. -/
def HasValue (o : Outline) (name : String) : Prop := name ∈ o.values ∧ o.ExportsValue name

instance (o : Outline) (name : String) : Decidable (o.ExportsValue name) :=
  inferInstanceAs (Decidable (∃ _ ∈ _, _ ∧ _))

instance (o : Outline) (name : String) : Decidable (o.HasValue name) :=
  inferInstanceAs (Decidable (_ ∧ _))

/-- A name lacks a value if it is a type and has none. -/
lemma lacksValue_iff {o : Outline} {name : String} :
    o.LacksValue name ↔ name ∈ o.types ∧ ¬ o.HasValue name := Iff.rfl

/-- The names without a value are what some local name contributes. -/
lemma mem_unvalued_iff_contribution {o : Outline} {exported : String} :
    exported ∈ o.unvalued ↔ ∃ name, exported ∈ o.contribution name := by
  rw [mem_unvalued]
  constructor
  · rintro ⟨e, mem, rfl, lacks⟩
    exact ⟨e.localName, mem_contribution.2 ⟨lacks, mem_aliases.2 ⟨e, mem, rfl, rfl⟩⟩⟩
  · rintro ⟨name, added⟩
    obtain ⟨lacks, aliased⟩ := mem_contribution.1 added
    obtain ⟨e, mem, rfl, rfl⟩ := mem_aliases.1 aliased
    exact ⟨e, mem, rfl, lacks⟩

section Append

variable {o more : Outline} {name exported : String}

/-- A name is exported as a value if one of two outlines exports it so. -/
lemma exportsValue_append :
    (o ++ more).ExportsValue name ↔ o.ExportsValue name ∨ more.ExportsValue name := by
  unfold ExportsValue
  simp only [events_append, List.mem_append, or_and_right, exists_or]

/-- The aliases in two outlines are those in the first and in the second. -/
lemma mem_aliases_append :
    exported ∈ (o ++ more).aliases name ↔
      exported ∈ o.aliases name ∨ exported ∈ more.aliases name := by
  simp only [mem_aliases, events_append, List.mem_append, or_and_right, exists_or]

/-- A local name that has a value keeps it. -/
lemma HasValue.append (h : o.HasValue name) : (o ++ more).HasValue name :=
  ⟨List.mem_append_left _ h.1, exportsValue_append.2 (.inl h.2)⟩

/-- A name with a value contributes nothing. -/
lemma HasValue.contribution_eq_nil (h : o.HasValue name) : o.contribution name = [] :=
  if_neg fun lacks => (lacksValue_iff.1 lacks).2 h

/-- A local name that was a type lacks a value later only if it did so before. -/
lemma lacksValue_of_append (isType : name ∈ o.types) (lacks : (o ++ more).LacksValue name) :
    o.LacksValue name :=
  lacksValue_iff.2 ⟨isType, fun hasValue => (lacksValue_iff.1 lacks).2 hasValue.append⟩

/-- A name that a local name adds later and did not add before: the local name has become a type,
or has been given this alias. -/
lemma cause_of_new (now : exported ∈ (o ++ more).contribution name)
    (before : exported ∉ o.contribution name) :
    name ∈ more.types ∧ name ∉ o.types ∨
      exported ∈ more.aliases name ∧ exported ∉ o.aliases name := by
  obtain ⟨lacks, aliased⟩ := mem_contribution.1 now
  by_cases isType : name ∈ o.types
  · right
    have unaliased : exported ∉ o.aliases name := by
      intro aliased
      exact before (mem_contribution.2 ⟨lacksValue_of_append isType lacks, aliased⟩)
    exact ⟨(mem_aliases_append.1 aliased).resolve_left unaliased, unaliased⟩
  · left
    exact ⟨(List.mem_append.1 lacks.1).resolve_left isType, isType⟩

/-- A name that a local name added before and does not add later: the local name has become a value,
or has been exported as one. -/
lemma cause_of_withdrawn (before : exported ∈ o.contribution name)
    (now : exported ∉ (o ++ more).contribution name) :
    name ∈ more.values ∧ name ∉ o.values ∨
      more.ExportsValue name ∧ ¬ o.ExportsValue name := by
  obtain ⟨lacks, aliased⟩ := mem_contribution.1 before
  obtain ⟨isType, noValue⟩ := lacksValue_iff.1 lacks
  -- the local name is still a type with this alias, so it has a value now
  have hasValue : (o ++ more).HasValue name := by
    by_contra none
    have lacks : (o ++ more).LacksValue name :=
      lacksValue_iff.2 ⟨List.mem_append_left _ isType, none⟩
    exact now (mem_contribution.2 ⟨lacks, mem_aliases_append.2 (.inl aliased)⟩)
  obtain ⟨value, exportsValue⟩ := hasValue
  by_cases old : name ∈ o.values
  · right
    have notExported : ¬ o.ExportsValue name := fun h => noValue ⟨old, h⟩
    exact ⟨(exportsValue_append.1 exportsValue).resolve_left notExported, notExported⟩
  · left
    exact ⟨(List.mem_append.1 value).resolve_left old, old⟩

end Append

end Outline

/-- The top-level names of a module come first among those of every continuation. -/
lemma prefix_topLevelNames (S T : List Statement) :
    (classify S).topLevelNames.toList <+: (classify (S ++ T)).topLevelNames.toList := by
  rw [topLevelNames_classify (S ++ T), Outline.ofStatements_append, Outline.bound_append,
    NameSet.ofList_append, NameSet.toList_addAll, topLevelNames_classify]
  exact List.prefix_append _ _

/-- The exports without a value are what some local name contributes. -/
lemma mem_exportsWithNoValue_iff_contribution {S : List Statement} {exported : String} :
    exported ∈ (classify S).exportsWithNoValue ↔
      ∃ name, exported ∈ (Outline.ofStatements S).contribution name := by
  rw [NameSet.mem_def, exportsWithNoValue_classify]
  exact Outline.mem_unvalued_iff_contribution

/-- The names that need a placeholder are those that local names add. One more statement leaves the
top-level names at the front. A name that needs a placeholder from then on is an alias of a local
name that the statement newly declares as a type, or newly exports under this alias. A name that
does not need one any more came from local names alone that the statement newly declares as values,
or newly exports as such. And a local name that is declared and exported as a value adds no name,
whatever statements follow. -/
theorem classify_growth (S : List Statement) (s : Statement) :
    let before := Outline.ofStatements S
    let now := Outline.ofStatements (S ++ [s])
    (∀ exported, exported ∈ (classify S).exportsWithNoValue ↔
        ∃ name, exported ∈ before.contribution name) ∧
      (classify S).topLevelNames.toList <+: (classify (S ++ [s])).topLevelNames.toList ∧
      (∀ exported ∈ (classify (S ++ [s])).exportsWithNoValue,
        exported ∉ (classify S).exportsWithNoValue →
          ∃ name, exported ∈ now.contribution name ∧
            (name ∈ s.outline.types ∧ name ∉ before.types ∨
              exported ∈ s.outline.aliases name ∧ exported ∉ before.aliases name)) ∧
      (∀ exported ∈ (classify S).exportsWithNoValue,
        exported ∉ (classify (S ++ [s])).exportsWithNoValue →
          ∀ name, exported ∈ before.contribution name →
            name ∈ s.outline.values ∧ name ∉ before.values ∨
              s.outline.ExportsValue name ∧ ¬ before.ExportsValue name) ∧
      ∀ name, before.HasValue name →
        ∀ T, (Outline.ofStatements (S ++ T)).contribution name = [] := by
  intro before now
  have grown : now = before ++ s.outline := by
    show Outline.ofStatements (S ++ [s]) = _
    rw [Outline.ofStatements_append, Outline.ofStatements_singleton]
  refine ⟨fun _ => mem_exportsWithNoValue_iff_contribution, prefix_topLevelNames S [s], ?new,
    ?withdrawn, ?settled⟩
  case new =>
    intro exported found missing
    obtain ⟨name, added⟩ := mem_exportsWithNoValue_iff_contribution.1 found
    refine ⟨name, added, Outline.cause_of_new (grown ▸ added) fun added => missing ?_⟩
    exact mem_exportsWithNoValue_iff_contribution.2 ⟨name, added⟩
  case withdrawn =>
    intro exported _ missing name added
    apply Outline.cause_of_withdrawn added
    intro added
    rw [← grown] at added
    exact missing (mem_exportsWithNoValue_iff_contribution.2 ⟨name, added⟩)
  case settled =>
    intro name hasValue T
    rw [Outline.ofStatements_append]
    exact hasValue.append.contribution_eq_nil

/-- A clause that exports a type under a new alias, and another type of which there is a value as a
value too: one name comes in and one goes. A class that was exported adds no name later. -/
theorem classify_growth_clause :
    let S : List Statement :=
      [⟨.typeAlias "B", false⟩, ⟨.variableDecl [.identifier "B"], false⟩,
        ⟨.exportClause { elements := [⟨"B", "Y", false⟩], typeOnly := true }, false⟩,
        ⟨.interfaceDecl "C", false⟩, ⟨.classDecl (some "D"), true⟩]
    let s : Statement :=
      ⟨.exportClause { elements := [⟨"B", "B", false⟩, ⟨"C", "W", false⟩] }, false⟩
    let T : List Statement :=
      [⟨.typeAlias "D", false⟩, ⟨.exportClause { elements := [⟨"D", "V", false⟩] }, false⟩]
    let before := Outline.ofStatements S
    (classify S).names = ["Y"] ∧ (classify (S ++ [s])).names = ["W"] ∧
      (∃ name, "W" ∈ (Outline.ofStatements (S ++ [s])).contribution name ∧
        (name ∈ s.outline.types ∧ name ∉ before.types ∨
          "W" ∈ s.outline.aliases name ∧ "W" ∉ before.aliases name)) ∧
      ("B" ∈ s.outline.values ∧ "B" ∉ before.values ∨
        s.outline.ExportsValue "B" ∧ ¬ before.ExportsValue "B") ∧
      before.HasValue "D" ∧ (Outline.ofStatements (S ++ T)).contribution "D" = [] := by
  intro S s T before
  obtain ⟨-, -, new, withdrawn, settled⟩ := classify_growth S s
  have hasValue : before.HasValue "D" := by decide
  refine ⟨by decide, by decide, new "W" (by decide) (by decide), ?_, hasValue,
    settled "D" hasValue T⟩
  exact withdrawn "Y" (by decide) (by decide) "B" (by decide)

end PlaceholderExports
