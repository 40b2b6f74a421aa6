import PlaceholderExports.Proofs.Classification.Rewriting
import PlaceholderExports.Syntax.Reduction

/-!
# The names of patterns

A pattern is made of smaller patterns, names, keys and expressions (`Pattern.parts`). What stands in
it at any depth has a place: the numbers of the parts that lead there (`PatternPart.HasAt`). Places
are compared as lists, which is the order of the text. This says which names a pattern binds, and in
which order, without collecting them: `PatternPart.bindsInOrder` says that the names that are
collected are just these, one for each place at which a name stands. Nothing stands inside a key or
an expression, so the names in there are none of them (`PatternPart.HasAt.not_inside`).

`names_of_bindings` is what follows for a variable statement and its classification: all of the
names are bound at top level, and only those of the plain identifiers count as values.
-/

namespace PlaceholderExports

namespace Syntax

/-! ### Parts and places -/

/-- What a pattern is made of. -/
inductive PatternPart where
  | pattern (p : Pattern)
  /-- A name that is bound. -/
  | name (id : String)
  /-- The key under which a part of an object is taken. -/
  | key (k : Key)
  /-- A default, or a decorator. -/
  | value (e : Expr)

/-- The parts of a pattern, in the order of the text. -/
def Pattern.parts : Pattern → List PatternPart
  | .name id => [.name id]
  | .object fields => fields.map .pattern
  | .array items => items.map .pattern
  | .withDefault target value => [.pattern target, .value value]
  | .field key target => [.key key, .pattern target]
  | .shorthand target | .rest target | .fieldParam target => [.pattern target]
  | .hole => []
  | .decorated decorators target => decorators.map .value ++ [.pattern target]

namespace PatternPart

/-- What stands at a place of a part: the part itself, or what stands at a place of one of its own
parts, each of which has a number. -/
inductive HasAt : PatternPart → List Nat → PatternPart → Prop where
  | here {x} :
    HasAt x [] x
  | inside {p i y place x} :
    p.parts[i]? = some y →
    HasAt y place x →
    HasAt (.pattern p) (i :: place) x

/-- Some names are those that stand in a part, one for each place, in the order of the places. -/
def BindsInOrder (x : PatternPart) (names : List String) : Prop :=
  ∃ found : List (List Nat × String), found.map (·.2) = names ∧
    found.Pairwise (fun a b => a.1 < b.1) ∧
    ∀ place id, (place, id) ∈ found ↔ x.HasAt place (.name id)

/-- A place below another one is a place of what stands there. -/
lemma HasAt.of_append {x y z : PatternPart} {place rest : List Nat} (there : x.HasAt place y)
    (below : x.HasAt (place ++ rest) z) : y.HasAt rest z := by
  induction there with
  | here => exact below
  | inside part _ ih =>
    cases below with
    | inside part' below =>
      obtain rfl := Option.some.inj (part.symm.trans part')
      exact ih below

/-- No name is bound inside a key or an expression. -/
lemma HasAt.not_inside {x y : PatternPart} {place : List Nat} (there : x.HasAt place y)
    (closed : (∃ k, y = .key k) ∨ ∃ e, y = .value e) (rest : List Nat) (id : String) :
    ¬ x.HasAt (place ++ rest) (.name id) := by
  intro below
  have found := there.of_append below
  obtain ⟨k, rfl⟩ | ⟨e, rfl⟩ := closed
  · cases found
  · cases found

/-- The names that a part binds. -/
def boundNames : PatternPart → List String
  | pattern p => p.boundNames
  | name id => [id]
  | key _ | value _ => []

end PatternPart

/-- The names of some patterns are collected one after the other. -/
lemma boundNamesOf_eq (ps : List Pattern) : boundNamesOf ps = ps.flatMap Pattern.boundNames := by
  induction ps with
  | nil => rfl
  | cons p ps ih =>
    rw [boundNamesOf, ih]
    rfl

/-- The names of a pattern are those of its parts. -/
lemma Pattern.boundNames_eq (p : Pattern) :
    p.boundNames = p.parts.flatMap PatternPart.boundNames := by
  cases p with
  | object fields =>
    rw [parts, List.flatMap_map]
    exact boundNamesOf_eq fields
  | array items =>
    rw [parts, List.flatMap_map]
    exact boundNamesOf_eq items
  | decorated decorators target =>
    have none : decorators.flatMap (fun e => (PatternPart.value e).boundNames) = [] :=
      List.flatMap_eq_nil_iff.2 fun _ _ => rfl
    rw [parts, List.flatMap_append, List.flatMap_map, none, List.flatMap_singleton]
    rfl
  | _ => simp [boundNames, parts, PatternPart.boundNames]

namespace PatternPart

/-- What stands in a pattern stands in one of its parts. -/
lemma hasAt_pattern {p : Pattern} {place : List Nat} {id : String} :
    (pattern p).HasAt place (.name id) ↔
      ∃ i x rest, p.parts[i]? = some x ∧ place = i :: rest ∧ x.HasAt rest (.name id) := by
  constructor
  · rintro (_ | ⟨part, there⟩)
    exact ⟨_, _, _, part, rfl, there⟩
  · rintro ⟨i, x, rest, part, rfl, there⟩
    exact .inside part there

/-- The names of parts are in order if they are in each of them. The first part has the number
`k`. -/
lemma exists_found {parts : List PatternPart}
    (each : ∀ x ∈ parts, x.BindsInOrder x.boundNames) (k : Nat) :
    ∃ found : List (List Nat × String), found.map (·.2) = parts.flatMap boundNames ∧
      found.Pairwise (fun a b => a.1 < b.1) ∧
      ∀ place id, (place, id) ∈ found ↔
        ∃ i x rest, parts[i]? = some x ∧ place = (k + i) :: rest ∧ x.HasAt rest (.name id) := by
  induction parts generalizing k with
  | nil => exact ⟨[], rfl, .nil, by simp⟩
  | cons x parts ih =>
    obtain ⟨⟨here, names, ordered, mem_here⟩, each⟩ := List.forall_mem_cons.1 each
    obtain ⟨later, names', ordered', mem_later⟩ := ih each (k + 1)
    have mem_first : ∀ place id, (place, id) ∈ here.map (fun f => (k :: f.1, f.2)) ↔
        ∃ rest, place = k :: rest ∧ x.HasAt rest (.name id) := by
      intro place id
      simp only [List.mem_map, Prod.exists, Prod.mk.injEq, mem_here]
      constructor
      · rintro ⟨rest, _, there, rfl, rfl⟩
        exact ⟨rest, rfl, there⟩
      · rintro ⟨rest, rfl, there⟩
        exact ⟨rest, id, there, rfl, rfl⟩
    refine ⟨here.map (fun f => (k :: f.1, f.2)) ++ later, ?_, ?_, fun place id => ?_⟩
    · rw [List.map_append, List.map_map, names', List.flatMap_cons, ← names]
      rfl
    · rw [List.pairwise_append, List.pairwise_map]
      refine ⟨ordered.imp fun less => List.cons_lt_cons_iff.2 (.inr ⟨rfl, less⟩), ordered', ?_⟩
      rintro ⟨_, _⟩ first ⟨_, _⟩ second
      obtain ⟨_, rfl, -⟩ := (mem_first _ _).1 first
      obtain ⟨i, _, _, -, rfl, -⟩ := (mem_later _ _).1 second
      exact List.cons_lt_cons_iff.2 (.inl (by omega))
    · rw [List.mem_append, mem_first, mem_later]
      constructor
      · rintro (⟨rest, rfl, there⟩ | ⟨i, y, rest, part, rfl, there⟩)
        · exact ⟨0, x, rest, rfl, rfl, there⟩
        · exact ⟨i + 1, y, rest, part, by rw [Nat.add_right_comm]; rfl, there⟩
      · rintro ⟨_ | i, y, rest, part, rfl, there⟩
        · obtain rfl := Option.some.inj part
          exact .inl ⟨rest, rfl, there⟩
        · exact .inr ⟨i, y, rest, part, by rw [Nat.add_right_comm]; rfl, there⟩

/-- A pattern binds in order what its parts bind in order. -/
lemma bindsInOrder_pattern {p : Pattern} (each : ∀ x ∈ p.parts, x.BindsInOrder x.boundNames) :
    (pattern p).BindsInOrder p.boundNames := by
  obtain ⟨found, names, ordered, mem⟩ := exists_found each 0
  refine ⟨found, names.trans p.boundNames_eq.symm, ordered, fun place id => ?_⟩
  rw [mem, hasAt_pattern]
  simp only [Nat.zero_add]

/-- A name binds itself. -/
lemma bindsInOrder_name (id : String) : (name id).BindsInOrder [id] := by
  refine ⟨[([], id)], rfl, List.pairwise_singleton _ _, fun place id' => ?_⟩
  rw [List.mem_singleton]
  constructor
  · rintro ⟨⟩
    exact .here
  · rintro ⟨⟩
    rfl

/-- A key binds nothing. -/
lemma bindsInOrder_key (k : Key) : (key k).BindsInOrder [] :=
  ⟨[], rfl, .nil, fun _ _ => ⟨nofun, nofun⟩⟩

/-- A default value binds nothing. -/
lemma bindsInOrder_value (e : Expr) : (value e).BindsInOrder [] :=
  ⟨[], rfl, .nil, fun _ _ => ⟨nofun, nofun⟩⟩

end PatternPart

open PatternPart

mutual

/-- The names that are collected from a pattern are those that stand in it, in the order of their
places. -/
theorem Pattern.bindsInOrder : (p : Pattern) → (PatternPart.pattern p).BindsInOrder p.boundNames
  | .name id => bindsInOrder_pattern (List.forall_mem_singleton.2 (bindsInOrder_name id))
  | .object fields => bindsInOrder_pattern (List.forall_mem_map.2 (bindsInOrderOf fields))
  | .array items => bindsInOrder_pattern (List.forall_mem_map.2 (bindsInOrderOf items))
  | .withDefault target e =>
    bindsInOrder_pattern (List.forall_mem_cons.2
      ⟨target.bindsInOrder, List.forall_mem_singleton.2 (bindsInOrder_value e)⟩)
  | .field k target =>
    bindsInOrder_pattern (List.forall_mem_cons.2
      ⟨bindsInOrder_key k, List.forall_mem_singleton.2 target.bindsInOrder⟩)
  | .shorthand target | .rest target | .fieldParam target =>
    bindsInOrder_pattern (List.forall_mem_singleton.2 target.bindsInOrder)
  | .hole => bindsInOrder_pattern nofun
  | .decorated _ target =>
    bindsInOrder_pattern (List.forall_mem_append.2
      ⟨List.forall_mem_map.2 fun e _ => bindsInOrder_value e,
        List.forall_mem_singleton.2 target.bindsInOrder⟩)

/-- This holds of each of some patterns. -/
theorem bindsInOrderOf : (ps : List Pattern) →
    ∀ p ∈ ps, (PatternPart.pattern p).BindsInOrder p.boundNames
  | [] => nofun
  | p :: ps => List.forall_mem_cons.2 ⟨p.bindsInOrder, bindsInOrderOf ps⟩

end

/-! ### Declarators -/

/-- A declarator binds the names of its pattern. -/
lemma Binding.boundNames_declarator (b : Binding) :
    b.declarator.boundNames = b.target.boundNames := by
  obtain ⟨target, value?⟩ := b
  cases target <;> simp [declarator, Declarator.boundNames, Pattern.boundNames]

/-- A declarator is a plain identifier if its pattern is one. -/
lemma Binding.declarator_eq_identifier {b : Binding} {id : String} :
    b.declarator = .identifier id ↔ b.target = .name id := by
  obtain ⟨target, value?⟩ := b
  cases target <;> simp [declarator]

/-- The bindings of a variable statement, also of one that is exported or only describes. -/
def Stmt.bindings? : Stmt → Option (List Binding)
  | .variableDecl _ bindings => some bindings
  | .ambient d | .exportDecl d | .commented _ d => d.bindings?
  | _ => none

/-- The statement of a tree is of the kind of the tree. -/
lemma Stmt.kind_reduced (s : Stmt) : s.reduced.kind = s.kind := by
  fun_induction Stmt.reduced s with
  | case1 d => rfl
  | case2 _ s ih => exact ih
  | case3 s => rfl

/-- A statement with bindings declares variables. -/
lemma Stmt.kind_of_bindings? {s : Stmt} {bs : List Binding} (found : s.bindings? = some bs) :
    s.kind = .variableDecl (bs.map Binding.declarator) := by
  fun_induction Stmt.bindings? s with
  | case1 kind bindings =>
    obtain rfl := Option.some.inj found
    rfl
  | case2 d ih => exact ih found
  | case3 d ih => exact ih found
  | case4 _ d ih => exact ih found
  | case5 s => cases found

end Syntax

/-! ### Classification -/

/-- The names of the declarators that are plain identifiers. -/
def plainNames (declarators : List Declarator) : List String :=
  declarators.filterMap Declarator.identifier?

/-- Declarators bind all of their names, but only the plain ones are declared and exported. -/
lemma gather_outline (exported : Bool) (declarators : List Declarator) :
    Outline.gather (Declarator.outline exported) declarators =
      { values := plainNames declarators
        bound := declarators.flatMap Declarator.boundNames
        events := (plainNames declarators).flatMap (ExportEvent.inPlace exported .value) } := by
  induction declarators with
  | nil => rfl
  | cons d declarators ih =>
    rw [Outline.gather_cons, ih]
    cases d with
    | identifier name => rfl
    | pattern names => rfl

/-- The plain names of identifiers are all of them. -/
lemma plainNames_identifiers (names : List String) :
    plainNames (names.map .identifier) = names := by
  unfold plainNames
  rw [List.filterMap_map]
  exact List.filterMap_some

open Syntax

/-- What a variable statement binds, and what classification makes of it. The names of each
declarator are those that stand in its pattern at any depth, one for each place and in the order of
the text, and nothing that stands in a key or a default is one of them; the declarator is a plain
identifier if and only if its pattern is a name. At top level all these names are bound and no
others, in this order. Only the plain identifiers are declared as values, in any state of the
classifier, and only they are exported. So which exports lack a value does not depend on the
patterns around them. -/
theorem names_of_bindings {s : Stmt} {bs : List Binding} (found : s.bindings? = some bs) :
    let declarators := bs.map Binding.declarator
    s.reduced.kind = .variableDecl declarators ∧
    (∀ b ∈ bs, (PatternPart.pattern b.target).BindsInOrder b.declarator.boundNames ∧
      (∀ place y, (PatternPart.pattern b.target).HasAt place y →
        ((∃ k, y = .key k) ∨ ∃ e, y = .value e) →
          ∀ rest id, ¬ (PatternPart.pattern b.target).HasAt (place ++ rest) (.name id)) ∧
      ∀ id, b.declarator = .identifier id ↔ b.target = .name id) ∧
    (classify [s.reduced]).topLevelNames.toList =
      (declarators.flatMap Declarator.boundNames).eraseDups ∧
    (∀ c : Classifier, c.visit s.reduced =
      { types := c.types
        values := c.values.addAll (plainNames declarators)
        exports := c.exports.recordAll
          ((plainNames declarators).flatMap (ExportEvent.inPlace s.reduced.exported .value))
        topLevelNames := c.topLevelNames.addAll (declarators.flatMap Declarator.boundNames) }) ∧
    ∀ before after, (classify (before ++ s.reduced :: after)).exportsWithNoValue =
      (classify (before ++
        { s.reduced with kind := .variableDecl ((plainNames declarators).map .identifier) } ::
          after)).exportsWithNoValue := by
  intro declarators
  have kind : s.reduced.kind = .variableDecl declarators :=
    s.kind_reduced.trans (Stmt.kind_of_bindings? found)
  generalize s.reduced = statement at kind ⊢
  obtain ⟨_, exported⟩ := statement
  obtain rfl := kind
  have outline : Statement.outline ⟨.variableDecl declarators, exported⟩ = _ :=
    gather_outline exported declarators
  refine ⟨rfl, fun b _ => ⟨?names, fun _ _ there closed => there.not_inside closed, fun _ =>
    b.declarator_eq_identifier⟩, ?topLevel, fun c => ?visit, fun before after => ?values⟩
  case names =>
    rw [b.boundNames_declarator]
    exact b.target.bindsInOrder
  case topLevel =>
    rw [(classify_eq_outline _).2, Outline.ofStatements_singleton, outline]
  case visit =>
    rw [Classifier.visit_eq, outline]
    rfl
  case values =>
    -- without the patterns the outline has the same core
    have plain : Statement.outline ⟨.variableDecl ((plainNames declarators).map .identifier),
        exported⟩ = _ := gather_outline exported _
    rw [plainNames_identifiers] at plain
    apply exportsWithNoValue_eq_of_core
    simp only [Outline.ofStatements_append, Outline.ofStatements_cons, Outline.core_append, outline,
      plain]
    rfl

/-- A statement with a pattern in which a key, a default, a hole and rests stand around the names,
and with a plain identifier behind it. -/
theorem names_of_bindings_nested :
    -- `export const {k: [a, , b = d, ...r], a, ...o} = x, n = 1`
    let target : Pattern := .object
      [.field (.identifier "k") (.array
        [.name "a", .hole, .withDefault (.name "b") (.name "d"), .rest (.name "r")]),
        .shorthand (.name "a"), .rest (.name "o")]
    let s : Stmt := .exportDecl (.variableDecl .const
      [⟨target, some (.name "x")⟩, ⟨.name "n", some (.atom (.bool true))⟩])
    s.bindings? = some [⟨target, some (.name "x")⟩, ⟨.name "n", some (.atom (.bool true))⟩] ∧
      (PatternPart.pattern target).BindsInOrder ["a", "b", "r", "a", "o"] ∧
      (PatternPart.pattern target).HasAt [0, 1, 2, 1] (.value (.name "d")) ∧
      ¬ (PatternPart.pattern target).HasAt [0, 1, 2, 1] (.name "d") ∧
      (classify [s.reduced]).topLevelNames.toList = ["a", "b", "r", "o", "n"] := by
  intro target s
  have found : s.bindings? =
      some [⟨target, some (.name "x")⟩, ⟨.name "n", some (.atom (.bool true))⟩] :=
    rfl
  obtain ⟨-, each, bound, -, -⟩ := names_of_bindings found
  obtain ⟨names, closed, -⟩ := each _ List.mem_cons_self
  have default : (PatternPart.pattern target).HasAt [0, 1, 2, 1] (.value (.name "d")) :=
    .inside rfl (.inside rfl (.inside rfl (.inside rfl .here)))
  exact ⟨found, names, default, closed _ _ default (.inr ⟨_, rfl⟩) [] "d", bound⟩

end PlaceholderExports
