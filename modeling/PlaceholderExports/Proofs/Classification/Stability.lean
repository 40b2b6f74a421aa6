import PlaceholderExports.Proofs.Classification.Declarative
import PlaceholderExports.Proofs.Placeholder.Freshness

/-!
# Order and repeats of statements

The order of the statements of a module decides the order of the names that are found and nothing
else: which names are found depends on the members of the outline (`Outline.SameMembers`), and
permuted statements have outlines with the same members. Statements that have been seen already
change nothing at all, the order of the names included (`Classifier.run_append_of_subset`).

The main result is `classify_perm_and_repeats`.
-/

namespace PlaceholderExports

namespace Outline

/-- Outlines that list the same names and exports, in whatever order and however often. -/
structure SameMembers (a b : Outline) : Prop where
  types : ∀ name, name ∈ a.types ↔ name ∈ b.types
  values : ∀ name, name ∈ a.values ↔ name ∈ b.values
  bound : ∀ name, name ∈ a.bound ↔ name ∈ b.bound
  events : ∀ e, e ∈ a.events ↔ e ∈ b.events

/-- Permuted statements have outlines with the same members. -/
lemma SameMembers.of_perm {S T : List Statement} (perm : S.Perm T) :
    SameMembers (ofStatements S) (ofStatements T) where
  types _ := (perm.flatMap_right _).mem_iff
  values _ := (perm.flatMap_right _).mem_iff
  bound _ := (perm.flatMap_right _).mem_iff
  events _ := (perm.flatMap_right _).mem_iff

/-- Whether a local name lacks a value depends on the members of the outline. -/
lemma SameMembers.lacksValue_iff {a b : Outline} (same : SameMembers a b) (name : String) :
    a.LacksValue name ↔ b.LacksValue name := by
  unfold LacksValue
  rw [same.types, same.values]
  simp only [same.events]

/-- Which names need a placeholder depends on the members of the outline. -/
lemma SameMembers.mem_unvalued_iff {a b : Outline} (same : SameMembers a b) (name : String) :
    name ∈ a.unvalued ↔ name ∈ b.unvalued := by
  rw [mem_unvalued, mem_unvalued]
  simp only [same.events, same.lacksValue_iff]

/-- Every name and export of the first outline stands in the second one. -/
structure Within (b a : Outline) : Prop where
  types : ∀ name ∈ b.types, name ∈ a.types
  values : ∀ name ∈ b.values, name ∈ a.values
  bound : ∀ name ∈ b.bound, name ∈ a.bound
  events : ∀ e ∈ b.events, e ∈ a.events

/-- What some of the statements list stands in the outline of all. -/
lemma Within.of_subset {S R : List Statement} (h : ∀ s ∈ R, s ∈ S) :
    Within (ofStatements R) (ofStatements S) := by
  have lift : ∀ {α : Type} (f : Statement → List α), ∀ x ∈ R.flatMap f, x ∈ S.flatMap f := by
    intro α f x mem
    obtain ⟨s, hs, mem⟩ := List.mem_flatMap.1 mem
    exact List.mem_flatMap.2 ⟨s, h s hs, mem⟩
  exact ⟨lift _, lift _, lift _, lift _⟩

end Outline

namespace Classifier

/-- A classifier that has gathered an outline absorbs what stands in it. -/
lemma absorb_ofOutline_of_within {a b : Outline} (within : b.Within a) :
    (ofOutline a).absorb b = ofOutline a := by
  have again : ∀ {names more : List String}, (∀ name ∈ more, name ∈ names) →
      (NameSet.ofList names).addAll more = .ofList names := by
    intro names more h
    exact NameSet.addAll_eq_self fun name mem => NameSet.mem_ofList.2 (h name mem)
  unfold absorb ofOutline
  dsimp only
  rw [again within.types, again within.values, again within.bound,
    ExportTable.recordAll_ofEvents_of_subset within.events]

/-- Statements that have been seen already leave the classifier as it is. -/
lemma run_append_of_subset {S R : List Statement} (h : ∀ s ∈ R, s ∈ S) :
    run (S ++ R) = run S := by
  have again : run (S ++ R) = (run S).absorb (.ofStatements R) := by
    show (S ++ R).foldl visit {} = _
    rw [List.foldl_append]
    exact foldl_visit _ R
  rw [again, run_eq_ofOutline]
  exact absorb_ofOutline_of_within (.of_subset h)

end Classifier

/-- Permuted statements need placeholders for the same names. -/
lemma mem_exportsWithNoValue_of_perm {S T : List Statement} (perm : S.Perm T) (name : String) :
    name ∈ (classify S).exportsWithNoValue ↔ name ∈ (classify T).exportsWithNoValue := by
  rw [NameSet.mem_def, NameSet.mem_def, exportsWithNoValue_classify, exportsWithNoValue_classify]
  exact (Outline.SameMembers.of_perm perm).mem_unvalued_iff name

/-- Permuted statements bind the same names. -/
lemma mem_topLevelNames_of_perm {S T : List Statement} (perm : S.Perm T) (name : String) :
    name ∈ (classify S).topLevelNames ↔ name ∈ (classify T).topLevelNames := by
  rw [mem_topLevelNames_iff, mem_topLevelNames_iff]
  exact (Outline.SameMembers.of_perm perm).bound name

/-- A permutation of the statements changes neither the set of names that need a placeholder, nor
the set of top-level names, nor the placeholder, and statements that are repeated after the module
change nothing. -/
theorem classify_perm_and_repeats (S : List Statement) :
    (∀ T, S.Perm T →
      (∀ name, name ∈ (classify S).exportsWithNoValue ↔ name ∈ (classify T).exportsWithNoValue) ∧
      (∀ name, name ∈ (classify S).topLevelNames ↔ name ∈ (classify T).topLevelNames) ∧
      ∀ base, (classify S).placeholder base = (classify T).placeholder base) ∧
    ∀ R, (∀ s ∈ R, s ∈ S) → classify (S ++ R) = classify S := by
  refine ⟨fun T perm => ?_, fun R h => ?_⟩
  · refine ⟨mem_exportsWithNoValue_of_perm perm, mem_topLevelNames_of_perm perm, fun base => ?_⟩
    exact Placeholder.identifier_congr base (mem_topLevelNames_of_perm perm)
  · show (Classifier.run (S ++ R)).finish = _
    rw [Classifier.run_append_of_subset h]
    rfl

/-- Two exported types in either order: the names come in another order, but the sets agree, and
repeating one of the types changes nothing. -/
theorem classify_perm_and_repeats_two_types :
    [Statement.mk (.typeAlias "A") true, ⟨.interfaceDecl "B", true⟩].Perm
        [⟨.interfaceDecl "B", true⟩, ⟨.typeAlias "A", true⟩] ∧
      (classify [⟨.typeAlias "A", true⟩, ⟨.interfaceDecl "B", true⟩]).names = ["A", "B"] ∧
      (classify [⟨.interfaceDecl "B", true⟩, ⟨.typeAlias "A", true⟩]).names = ["B", "A"] ∧
      (∀ name, name ∈ (classify [⟨.typeAlias "A", true⟩,
          ⟨.interfaceDecl "B", true⟩]).exportsWithNoValue ↔
        name ∈ (classify [⟨.interfaceDecl "B", true⟩,
          ⟨.typeAlias "A", true⟩]).exportsWithNoValue) ∧
      classify ([⟨.typeAlias "A", true⟩, ⟨.interfaceDecl "B", true⟩] ++
          [⟨.typeAlias "A", true⟩]) =
        classify [⟨.typeAlias "A", true⟩, ⟨.interfaceDecl "B", true⟩] := by
  have perm : [Statement.mk (.typeAlias "A") true, ⟨.interfaceDecl "B", true⟩].Perm
      [⟨.interfaceDecl "B", true⟩, ⟨.typeAlias "A", true⟩] := .swap _ _ _
  obtain ⟨ofPerm, ofRepeat⟩ :=
    classify_perm_and_repeats [⟨.typeAlias "A", true⟩, ⟨.interfaceDecl "B", true⟩]
  refine ⟨perm, by decide, by decide, (ofPerm _ perm).1, ?_⟩
  exact ofRepeat [⟨.typeAlias "A", true⟩] (by decide)

end PlaceholderExports
