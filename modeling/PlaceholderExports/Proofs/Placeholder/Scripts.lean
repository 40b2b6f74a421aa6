import PlaceholderExports.Proofs.Placeholder.Hygiene
import PlaceholderExports.Proofs.Placeholder.Snippet
import PlaceholderExports.Script.Linking

/-!
# Scripts of modules with their placeholder

A module is refused a script for what one of its statements is: a namespace with a changing export,
or an import or export by assignment. Which statements its script needs depends on the names that
are used. The statements of a placeholder use the placeholder alone, which no other statement
declares, so a module has a script with them if and only if it has one without them
(`isOk_moduleText_append`).
-/

namespace PlaceholderExports.Script

open PlaceholderExports.Syntax

variable {ns ns' : Names}

/-- Whether a module that needs a statement is refused a script. -/
def isRefused (s : Stmt) : Bool := exportsVariable s || needsLoader s

/-- A module has a script unless one of the statements that it needs is refused. -/
lemma isOk_moduleText (m : Module) : (moduleText m).isOk = !(linked m.body).any isRefused := by
  have split : ∀ body : List Stmt,
      body.any isRefused = (body.any exportsVariable || body.any needsLoader) := by
    intro body
    induction body with
    | nil => rfl
    | cons s body ih =>
      simp only [List.any_cons, ih, isRefused]
      ac_rfl
  unfold moduleText
  simp only [split]
  split_ifs with changing foreign
  · simp [changing, Except.isOk, Except.toBool]
  · simp [foreign, Except.isOk, Except.toBool]
  · simp [changing, foreign, Except.isOk, Except.toBool]

/-- The statements that a script needs are those that are kept and at most an empty export
clause. -/
lemma any_linked (body : List Stmt) :
    (linked body).any isRefused = body.any fun s => (needed? (namesOf body) s).any isRefused := by
  have kept : (body.filterMap (needed? (namesOf body))).any isRefused =
      body.any fun s => (needed? (namesOf body) s).any isRefused := by
    rw [List.any_filterMap]
    congr
  have empty : [emptyExport].any isRefused = false := rfl
  unfold linked
  simp only
  split_ifs
  · rw [List.any_append, kept, empty, Bool.or_false]
  · exact kept

/-- Comments do not decide whether a statement is refused. -/
lemma any_map_commented (comments : List Comment) (o : Option Stmt) :
    (o.map (Stmt.commented comments)).any isRefused = o.any isRefused := by
  cases o with
  | none => rfl
  | some s => simp [isRefused, exportsVariable, needsLoader]

/-- An import or export of a kind that is never refused is not refused. -/
lemma any_map_linkage {α : Type} {f : α → Linkage} (plain : ∀ a, isRefused (.linkage (f a)) = false)
    (o : Option α) : ((o.map f).map Stmt.linkage).any isRefused = false := by
  cases o with
  | none => rfl
  | some a => exact plain a

/-- An import or export is kept or refused by the uses of the names that it declares. -/
lemma any_linkage_isRefused (l : Linkage)
    (same : ∀ name ∈ l.kind.names, ns.uses.contains name = ns'.uses.contains name) :
    ((linkage? ns l).map Stmt.linkage).any isRefused =
      ((linkage? ns' l).map Stmt.linkage).any isRefused := by
  cases l with
  | importAlias name typeOnly target =>
    cases typeOnly with
    | false => simp only [linkage?, same name (List.mem_singleton_self name)]
    | true => rfl
  | importNames typeOnly bindings? source =>
    cases typeOnly with
    | false =>
      cases bindings? with
      | none => rfl
      | some bindings =>
        rw [linkage?, linkage?, any_map_linkage fun _ => rfl, any_map_linkage fun _ => rfl]
    | true => rfl
  | exportNames typeOnly specifiers source? =>
    cases typeOnly with
    | false => rw [linkage?, linkage?, any_map_linkage fun _ => rfl, any_map_linkage fun _ => rfl]
    | true => rfl
  | exportAll typeOnly alias? source => cases typeOnly <;> rfl
  | exportAsNamespace name => rfl

/-- A statement is kept or refused by the uses of the names that it declares. -/
lemma any_needed_isRefused (s : Stmt)
    (same : ∀ name ∈ s.kind.names, ns.uses.contains name = ns'.uses.contains name) :
    (needed? ns s).any isRefused = (needed? ns' s).any isRefused := by
  fun_induction needed? ns s with
  | case1 l => exact any_linkage_isRefused l same
  | case2 id keeps | case3 id drops =>
    rw [needed?]
    split_ifs <;> rfl
  | case4 comments s ih =>
    rw [needed?, any_map_commented, any_map_commented]
    exact ih same
  | case5 s _ _ _ erased | case6 s _ _ _ erased => simp_all [needed?]

/-- The uses in two bodies are those in the first and then those in the second. -/
lemma bodyUses_append (body rest : List Stmt) :
    bodyUses (body ++ rest) = bodyUses body ++ bodyUses rest := by
  induction body with
  | nil => rfl
  | cons s body ih => simp only [List.cons_append, bodyUses, ih, List.append_assoc]

section

variable {placeholder : String} {names : List String} {before between : List Comment}

/-- The statements of a placeholder use the placeholder alone. -/
lemma eq_of_mem_uses_placeholder {name : String}
    (mem : name ∈ bodyUses (placeholderBody placeholder names before between)) :
    name = placeholder := by
  have commented : ∀ comments s, (Grammar.withComments comments s).uses = s.uses := by
    intro comments s
    unfold Grammar.withComments
    split_ifs
    · rfl
    · rw [Stmt.uses]
  have declares : (placeholderDecl placeholder).uses = [] := by
    simp [placeholderDecl, Stmt.uses, bindingUses, Binding.uses, Pattern.uses, optionUses,
      Expr.uses]
  simp only [placeholderBody, bodyUses, commented, declares, List.nil_append,
    List.append_nil] at mem
  simp only [placeholderClause, Stmt.uses, Linkage.uses, List.mem_map, List.mem_filter] at mem
  obtain ⟨_, ⟨⟨_, -, rfl⟩, -⟩, rfl⟩ := mem
  rfl

/-- No script is refused for the statements of a placeholder. -/
lemma any_placeholder (ns : Names) :
    ((placeholderBody placeholder names before between).any fun s => (needed? ns s).any isRefused) =
      false := by
  have commented : ∀ comments s, ((needed? ns (Grammar.withComments comments s)).any isRefused) =
      (needed? ns s).any isRefused := by
    intro comments s
    unfold Grammar.withComments
    split_ifs
    · rfl
    · rw [needed?, any_map_commented]
  have declares : (needed? ns (placeholderDecl placeholder)).any isRefused = false := by
    simp [placeholderDecl, needed?, isErased, isRefused, exportsVariable, needsLoader]
  have exports : (needed? ns (placeholderClause placeholder names)).any isRefused = false := by
    rw [placeholderClause, needed?, linkage?, any_map_linkage fun _ => rfl]
  simp [placeholderBody, commented, declares, exports]

/-- A module has a script with the statements of a placeholder if and only if it has one without
them. -/
theorem isOk_moduleText_append {m : Module}
    (fresh : placeholder ∉ (Outline.ofStatements m.statements).bound) :
    (moduleText
        { m with body := m.body ++ placeholderBody placeholder names before between }).isOk =
      (moduleText m).isOk := by
  have same : ∀ s ∈ m.body,
      (needed? (namesOf (m.body ++ placeholderBody placeholder names before between)) s).any
        isRefused = (needed? (namesOf m.body) s).any isRefused := by
    intro s mem
    apply any_needed_isRefused
    intro name bound
    have other : name ∉ bodyUses (placeholderBody placeholder names before between) := by
      intro used
      apply fresh
      rw [← eq_of_mem_uses_placeholder used]
      exact Module.mem_bound.2 ⟨s, mem, bound⟩
    simp [namesOf, bodyUses_append, other]
  rw [isOk_moduleText, isOk_moduleText, any_linked, any_linked, List.any_append, any_placeholder,
    Bool.or_false]
  congr 1
  rw [Bool.eq_iff_iff, List.any_eq_true, List.any_eq_true]
  exact exists_congr fun s => and_congr_right fun mem => by rw [same s mem]

end

end PlaceholderExports.Script
