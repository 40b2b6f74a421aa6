import PlaceholderExports.Prepared
import PlaceholderExports.Proofs.Classification.Patterns
import PlaceholderExports.Proofs.Placeholder.Rounds
import PlaceholderExports.Syntax.Scope

/-!
# Placeholders and the scope of their module

The placeholder is declared at the top level, so it should be no name that the module declares in
its scope. The names to avoid are taken from the statements at the top level, and these keep what
they declare themselves. What `var` declares further inside, in blocks, loops and the like, belongs
to the scope of the module too, and no statement keeps it.

Going through the forms of statements shows that nothing else is lost: a name that a statement
declares in its block is kept (`blockNames_subset_names`), and one that it hoists is kept or stands
in a nested `var` (`hoistedNames_subset`). So the placeholder meets a declaration of the module
exactly if it meets a nested `var` (`placeholder_declared_iff`), which happens
(`placeholder_meets_nested_var`).
-/

namespace PlaceholderExports

/-- The names that a kind of statement binds at the top level. -/
def StatementKind.names : StatementKind → List String
  | typeAlias name | interfaceDecl name | enumDecl name => [name]
  | variableDecl declarators => declarators.flatMap Declarator.boundNames
  | functionDecl name? | classDecl name? => name?.toList
  | importNames names => names
  | exportClause _ | other => []

/-- The outline of a statement binds the names of its kind. -/
lemma Statement.bound_outline (s : Statement) : s.outline.bound = s.kind.names := by
  obtain ⟨kind, exported⟩ := s
  cases kind with
  | variableDecl declarators =>
    have bound : ∀ d : Declarator, (d.outline exported).bound = d.boundNames := by
      intro d
      cases d <;> rfl
    change (declarators.flatMap fun d => (d.outline exported).bound) = _
    simp only [bound]
    rfl
  | functionDecl name? => cases name? <;> rfl
  | classDecl name? => cases name? <;> rfl
  | _ => rfl

namespace Syntax

/-! ### What the statements of a module keep -/

/-- The declarators of some bindings bind the names of the bindings. -/
lemma flatMap_declarator (bs : List Binding) :
    (bs.map Binding.declarator).flatMap Declarator.boundNames = bindingNames bs := by
  unfold bindingNames
  rw [List.flatMap_map]
  simp only [Binding.boundNames_declarator]

/-- A statement keeps the names that it declares in its own block. -/
lemma Stmt.blockNames_subset_names (s : Stmt) : s.blockNames ⊆ s.kind.names := by
  fun_induction Stmt.blockNames s with
  | case1 bs => exact List.nil_subset _
  | case2 kind bs _ =>
    rw [← flatMap_declarator]
    exact List.Subset.refl _
  | case3 f => exact List.Subset.refl _
  | case4 c => exact List.Subset.refl _
  | case5 name members => exact List.Subset.refl _
  | case6 name body =>
    cases name with
    | names first more => exact List.Subset.refl _
    | string s => exact List.nil_subset _
    | global => exact List.nil_subset _
  | case7 l =>
    cases l with
    | importAlias _ _ _ => exact List.Subset.refl _
    | importNames _ _ _ => exact List.Subset.refl _
    | exportNames _ _ _ => exact List.nil_subset _
    | exportAll _ _ _ => exact List.nil_subset _
    | exportAsNamespace _ => exact List.nil_subset _
  | case8 d ih => exact ih
  | case9 d ih => exact ih
  | case10 d ih => exact ih
  | case11 _ d ih => exact ih
  | case12 s => exact List.nil_subset _

/-- The names that `var` declares inside a statement, and not as the statement itself. -/
def Stmt.nestedVars : Stmt → List String
  | .variableDecl _ _ => []
  | .ambient d | .exportDecl d | .commented _ d => d.nestedVars
  | s => s.hoistedNames

/-- The names that `var` declares in a module anywhere but at its top level. -/
def Module.nestedVars (m : Module) : List String := m.body.flatMap Stmt.nestedVars

/-- A name that a statement hoists is kept, or a nested `var` declares it. -/
lemma Stmt.hoistedNames_subset (s : Stmt) :
    ∀ name ∈ s.hoistedNames, name ∈ s.kind.names ∨ name ∈ s.nestedVars := by
  fun_induction Stmt.nestedVars s with
  | case1 kind bs =>
    intro name mem
    left
    change name ∈ (bs.map Binding.declarator).flatMap Declarator.boundNames
    rw [flatMap_declarator]
    cases kind with
    | var => exact mem
    | _ => cases mem
  | case2 d ih => exact ih
  | case3 d ih => exact ih
  | case4 _ d ih => exact ih
  | case5 s => exact fun name mem => .inr mem

/-- What nested `var`s declare is hoisted. -/
lemma Stmt.nestedVars_subset (s : Stmt) : s.nestedVars ⊆ s.hoistedNames := by
  fun_induction Stmt.nestedVars s with
  | case1 kind bs => exact List.nil_subset _
  | case2 d ih => exact ih
  | case3 d ih => exact ih
  | case4 _ d ih => exact ih
  | case5 s => exact List.Subset.refl _

/-- The names hoisted out of a body are those of its statements. -/
lemma mem_hoistedNamesOf {name : String} {body : List Stmt} :
    name ∈ hoistedNamesOf body ↔ ∃ s ∈ body, name ∈ s.hoistedNames := by
  induction body with
  | nil => simp [hoistedNamesOf]
  | cons s body ih => simp [hoistedNamesOf, ih]

/-- The names that the statements of a module bind are those of their kinds. -/
lemma Module.mem_bound {name : String} {m : Module} :
    name ∈ (Outline.ofStatements m.statements).bound ↔ ∃ s ∈ m.body, name ∈ s.kind.names := by
  change name ∈ m.statements.flatMap (fun s => s.outline.bound) ↔ _
  simp only [Module.statements, List.mem_flatMap, List.mem_map, Statement.bound_outline]
  constructor
  · rintro ⟨_, ⟨s, hs, rfl⟩, mem⟩
    rw [Stmt.kind_reduced] at mem
    exact ⟨s, hs, mem⟩
  · rintro ⟨s, hs, mem⟩
    rw [← Stmt.kind_reduced] at mem
    exact ⟨_, ⟨s, hs, rfl⟩, mem⟩

/-- The names that a module declares in its scope are bound by its statements or declared by nested
`var`s. -/
lemma Module.declaredNames_subset (m : Module) :
    ∀ name ∈ m.declaredNames,
      name ∈ (Outline.ofStatements m.statements).bound ∨ name ∈ m.nestedVars := by
  intro name mem
  rcases List.mem_append.1 mem with mem | mem
  · obtain ⟨s, hs, mem⟩ := List.mem_flatMap.1 mem
    exact .inl (Module.mem_bound.2 ⟨s, hs, s.blockNames_subset_names mem⟩)
  · obtain ⟨s, hs, mem⟩ := mem_hoistedNamesOf.1 mem
    rcases s.hoistedNames_subset name mem with mem | mem
    · exact .inl (Module.mem_bound.2 ⟨s, hs, mem⟩)
    · exact .inr (List.mem_flatMap.2 ⟨s, hs, mem⟩)

/-- Variables of nested statements are declared names. -/
lemma Module.nestedVars_subset (m : Module) : m.nestedVars ⊆ m.declaredNames := by
  intro name mem
  obtain ⟨s, hs, mem⟩ := List.mem_flatMap.1 mem
  exact List.mem_append_right _ (mem_hoistedNamesOf.2 ⟨s, hs, s.nestedVars_subset mem⟩)

/-- A placeholder meets a declaration of its module exactly if it meets a nested `var`. -/
lemma Module.placeholder_mem_declaredNames (m : Module) (base : String) :
    (classify m.statements).placeholder base ∈ m.declaredNames ↔
      (classify m.statements).placeholder base ∈ m.nestedVars := by
  refine ⟨fun mem => ?_, fun mem => m.nestedVars_subset mem⟩
  exact (m.declaredNames_subset _ mem).resolve_left (placeholder_notMem_bound base m.statements)

end Syntax

open Syntax

/-- Every text that is a module is prepared, whatever the base name, and the placeholder that is
declared behind it is declared in the scope of the module by nested `var`s at most. In particular a
module without a nested `var` declares no such name. -/
theorem placeholder_declared_iff (variant : ScriptVariant) (base : String) (path : FsPath)
    (source : String) (m : Module) (reads : variant.read source = .ok m) :
    ∃ prepared, Frontend.typeScript.prepare variant base path source = .ok prepared ∧
      let placeholder := prepared.classification.placeholder base
      prepared.source =
          source ++ Placeholder.snippet prepared.classification.names placeholder ∧
        (placeholder ∈ m.declaredNames ↔ placeholder ∈ m.nestedVars) := by
  have analysis : Frontend.typeScript.analyze variant path source =
      .ok (classify m.statements) := by
    simp only [Frontend.analyze, Frontend.statements, Frontend.typeScript, reads]
    rfl
  refine ⟨⟨Placeholder.append source (classify m.statements)
    ((classify m.statements).placeholder base), classify m.statements⟩, ?_, rfl, ?_⟩
  · unfold Frontend.prepare
    rw [analysis]
    rfl
  · exact m.placeholder_mem_declaredNames base

/-- A text that is read has a tree, of which what can be computed from it holds. -/
lemma ScriptVariant.exists_of_read (variant : ScriptVariant) (source : String) (p : Module → Bool)
    (h : (variant.read source).toOption.any p = true) :
    ∃ m, variant.read source = .ok m ∧ p m = true := by
  cases read : variant.read source with
  | error e =>
    rw [read] at h
    cases h
  | ok m =>
    rw [read] at h
    exact ⟨m, rfl, h⟩

/-- A module that declares the base name beside nested `var`s of other names: the placeholder is
numbered, and the module does not declare it. -/
theorem placeholder_declared_iff_numbered :
    let source :=
      "const __fakeValueExport__ = 1;\nfor (var i = 0; ; ) \x7b var j; \x7d\nexport type T = 1;"
    ∃ m, ScriptVariant.plain.read source = .ok m ∧
      m.declaredNames = ["__fakeValueExport__", "i", "j"] ∧
      ∃ prepared, Frontend.typeScript.prepare .plain Placeholder.defaultBase ⟨"/a.ts"⟩ source =
          .ok prepared ∧
        prepared.classification.placeholder = "__fakeValueExport__$1" ∧
        prepared.classification.placeholder ∉ m.declaredNames := by
  intro source
  obtain ⟨m, reads, names⟩ := ScriptVariant.exists_of_read .plain source
    (fun m => m.declaredNames = ["__fakeValueExport__", "i", "j"] ∧ m.nestedVars = ["i", "j"])
    (by decide +kernel)
  obtain ⟨declared, nested⟩ := of_decide_eq_true names
  have numbered : (Frontend.typeScript.prepare .plain Placeholder.defaultBase ⟨"/a.ts"⟩ source).map
      (·.classification.placeholder) = .ok "__fakeValueExport__$1" := by decide +kernel
  obtain ⟨prepared, ok, -, iff⟩ :=
    placeholder_declared_iff .plain Placeholder.defaultBase ⟨"/a.ts"⟩ source m reads
  rw [ok] at numbered
  have numbered : prepared.classification.placeholder = "__fakeValueExport__$1" :=
    Except.ok.inj numbered
  refine ⟨m, reads, declared, prepared, ok, numbered, fun mem => ?_⟩
  have mem := iff.1 mem
  rw [nested] at mem
  change prepared.classification.placeholder ∈ _ at mem
  rw [numbered] at mem
  revert mem
  decide

/-- A `var` in a block under the base name: the block keeps no name, so the base name is taken for
the placeholder, although the module declares it. -/
theorem placeholder_meets_nested_var :
    let source := "\x7b var __fakeValueExport__ = 1; \x7d\nexport type T = 1;"
    ∃ m, ScriptVariant.plain.read source = .ok m ∧
      Placeholder.isValidName Placeholder.defaultBase = true ∧
      (classify m.statements).placeholder = "__fakeValueExport__" ∧
      "__fakeValueExport__" ∈ m.declaredNames := by
  intro source
  obtain ⟨m, reads, facts⟩ := ScriptVariant.exists_of_read .plain source
    (fun m => Placeholder.isValidName Placeholder.defaultBase = true ∧
      (classify m.statements).placeholder = "__fakeValueExport__" ∧
      "__fakeValueExport__" ∈ m.declaredNames) (by decide +kernel)
  exact ⟨m, reads, of_decide_eq_true facts⟩

end PlaceholderExports
