import PlaceholderExports.Prepared
import PlaceholderExports.Proofs.Placeholder.Rounds
import PlaceholderExports.Proofs.Placeholder.Scripts
import PlaceholderExports.Proofs.Placeholder.Validity
import PlaceholderExports.Proofs.Reading.NextLine

/-!
# Texts with their placeholder

The placeholder is appended to the text of a module after a line break, so it relies on the last
statement of the module ending there. Where it does, reading comes to the constant of the snippet
with the statements of the module, and goes on with the two statements of the snippet
(`topLevel_snippet`). The prepared text is then read as the module and its placeholder, and it has a
script if the module has one (`reduce_prepared`).

A module that ends in the word `static` without a semicolon goes on: the constant is read as what
`static` modifies (`appended_constant_modified`).
-/

namespace PlaceholderExports

open PlaceholderExports.Syntax

namespace Syntax

/-- A statement at the top of a module is read one level below it. -/
lemma nextStatement_of_bare (n : Nat) (markup : Bool) {word : String} {s : Stmt} {c d : Cursor}
    (here : c.token = .name word false)
    (bare : Grammar.bareStatement.run ⟨Step.take⟩ (.level ⟨Step.take⟩ n) { markup } c = .done s d)
    (found : List Stmt) :
    (nextStatement found).run ⟨Step.take⟩ (.level ⟨Step.take⟩ (n + 1)) { markup } c =
      .done (some (Grammar.withComments (c.comments found.isEmpty) s :: found)) d := by
  have statement : ∀ isFirst,
      (Rules.level ⟨Step.take⟩ (n + 1)).read .statement { markup, isFirst } c =
      .done (Grammar.withComments (c.comments isFirst) s) d := by
    intro isFirst
    change Grammar.statement.run _ _ _ _ = _
    simp [Grammar.statement, bare]
  simp [nextStatement, here, Nested.statement, Reads.run, statement]

/-- After the two statements of a snippet its text ends. -/
lemma statementsFrom_snippet {placeholder : String} (free : IsFreeName placeholder)
    (names : List String) (markup : Bool) {n : Nat} (deep : 4 ≤ n) {c : Cursor}
    (word : c.Stands (.name "const" false)
      (' ' :: (placeholder.toList ++ Placeholder.tailChars placeholder names)))
    {fuel : Nat} (enough : 3 ≤ fuel) (found : List Stmt) :
    ∃ before between,
      statementsFrom (.level ⟨Step.take⟩ (n + 1)) { markup } fuel found c =
        .done (Grammar.withComments between (placeholderClause placeholder names) ::
          Grammar.withComments before (placeholderDecl placeholder) :: found)
          (.ofText [] false 0) := by
  obtain ⟨fuel, rfl⟩ := Nat.exists_eq_add_of_le' enough
  have declares := nextStatement_of_bare n markup word.token
    (bareStatement_placeholder free names markup deep word) found
  have exports := nextStatement_of_bare n markup rfl (bareStatement_clause free names)
    (Grammar.withComments (c.comments found.isEmpty) (placeholderDecl placeholder) :: found)
  have ends : ∀ found, (nextStatement found).run ⟨Step.take⟩ (.level ⟨Step.take⟩ (n + 1)) { markup }
      (.ofText [] false 0) = .done none (.ofText [] false 0) := fun _ => rfl
  have steps := (statementsFrom_of_some declares (fuel + 2)).trans
    ((statementsFrom_of_some exports (fuel + 1)).trans (statementsFrom_of_none (ends _) fuel))
  exact ⟨_, _, steps⟩

end Syntax

namespace Placeholder

/-- What every snippet for the default base name begins with, after its line break. -/
def constantStart : String := "const " ++ defaultBase

/-- The placeholder is the default base name with something after it. -/
lemma exists_suffix (reserved : NameSet) :
    ∃ suffix, (identifier defaultBase reserved).toList = defaultBase.toList ++ suffix := by
  obtain base | ⟨n, numbered⟩ := exists_identifier defaultBase reserved
  · exact ⟨[], by rw [base, List.append_nil]⟩
  · refine ⟨'$' :: (toString n).toList, ?_⟩
    rw [numbered, Placeholder.numbered, String.toList_append, String.toList_append,
      List.append_assoc]
    rfl

/-- The placeholder is no word of the language. -/
lemma isFreeName_identifier (reserved : NameSet) :
    IsFreeName (identifier defaultBase reserved) := by
  have bindable : IsBindable (identifier defaultBase reserved) :=
    (isBindable_identifier_iff (by decide +kernel) reserved).2 (.inl (by decide))
  refine ⟨bindable.isName, bindable.notReserved, bindable.notStrict, fun same => ?_⟩
  obtain ⟨suffix, chars⟩ := exists_suffix reserved
  rw [same] at chars
  exact absurd (List.cons.inj chars).1 (by decide)

/-- Every snippet for the default base name begins in the same way. -/
lemma exists_toList_snippet (names : List String) (reserved : NameSet) :
    ∃ more, (snippet names (identifier defaultBase reserved)).toList =
        '\n' :: (constantStart.toList ++ more) ∧
      3 ≤ more.length ∧
      (identifier defaultBase reserved).toList ++
          tailChars (identifier defaultBase reserved) names =
        defaultBase.toList ++ more := by
  obtain ⟨suffix, chars⟩ := exists_suffix reserved
  refine ⟨suffix ++ tailChars (identifier defaultBase reserved) names, ?_, ?_, ?_⟩
  · have start : constantStart.toList = "const ".toList ++ defaultBase.toList :=
      String.toList_append
    rw [toList_snippet, chars, start, List.append_assoc, List.append_assoc]
    rfl
  · have middle : middleChars.length = 17 := rfl
    rw [List.length_append, tailChars, List.length_append]
    omega
  · rw [chars, List.append_assoc]

end Placeholder

namespace Syntax

/-- Where known steps come to the beginning of a snippet, its constant stands in the text with the
whole snippet. -/
lemma Cursor.Extends.stands_const {more : List Char} {c c' : Cursor} (here : c.Extends more c')
    (place : c.start = Placeholder.constantStart.toList) (closed : c.openDefaults = 0) :
    c'.Stands (.name "const" false) (' ' :: (Placeholder.defaultBase.toList ++ more)) := by
  have scan : Token.scan Placeholder.constantStart.toList =
      (.name "const" false, ' ' :: Placeholder.defaultBase.toList) := rfl
  have tokens : (c.token, c.rest) = Token.scan c.start := by
    obtain ⟨text, newline, openDefaults, rfl, -⟩ := here
    rfl
  rw [place, scan] at tokens
  obtain ⟨token, rest⟩ := Prod.mk.inj tokens
  have settled : c.IsSettled := by
    constructor
    · rw [token]
      rfl
    · rw [place]
      decide
    · rw [rest]
      exact List.cons_ne_nil _ _
  rw [here.eq_followed settled]
  constructor
  · exact token
  · change ofText (c.rest ++ more) false c.openDefaults = _
    rw [rest, closed, List.cons_append]

/-- The statement of a tree is the same with comments before it. -/
lemma Stmt.reduced_withComments (comments : List Comment) (s : Stmt) :
    (Grammar.withComments comments s).reduced = s.reduced := by
  unfold Grammar.withComments
  split_ifs <;> rfl

/-- Statements that end before the constant of a snippet are read in the text with the whole
snippet, and the statements of the snippet after them. -/
lemma topLevel_snippet {placeholder : String} (free : IsFreeName placeholder) (names : List String)
    {markup : Bool} {front more : List Char} {found : List Stmt}
    (known : let whole := front ++ '\n' :: Placeholder.constantStart.toList
      statementsUpTo (.level ⟨Step.takeKnown⟩ (whole.length + 1)) { markup }
        Placeholder.constantStart.toList (whole.length + 1) [] (.ofText whole true 0) = some found)
    (long : 3 ≤ more.length)
    (goesOn : placeholder.toList ++ Placeholder.tailChars placeholder names =
      Placeholder.defaultBase.toList ++ more) :
    let text := front ++ '\n' :: (Placeholder.constantStart.toList ++ more)
    ∃ before between, topLevel.run ⟨Step.take⟩ (.level ⟨Step.take⟩ (text.length + 1)) { markup }
        (.ofText text true 0) =
      .done (found.reverse ++ placeholderBody placeholder names before between)
        (.ofText [] false 0) := by
  intro text
  let whole := front ++ '\n' :: Placeholder.constantStart.toList
  have split : text = whole ++ more := by simp [text, whole]
  have length : text.length + 1 = whole.length + 1 + more.length := by
    rw [split, List.length_append, Nat.add_right_comm]
  have deeper : whole.length + 1 ≤ text.length + 1 := by
    rw [length]
    exact Nat.le_add_right _ _
  have deep : 4 ≤ text.length := by
    have start : 4 ≤ Placeholder.constantStart.toList.length := by decide
    simp only [text, List.length_append, List.length_cons]
    omega
  obtain ⟨c, c', fuel, here, place, closed, enough, steps⟩ := statementsUpTo_follows
    (Rules.level_follows more deeper) (Cursor.extends_ofText whole more true 0) known more.length
  have word := here.stands_const place closed
  rw [← goesOn] at word
  obtain ⟨before, between, ending⟩ :=
    statementsFrom_snippet free names markup deep word (long.trans enough) found
  refine ⟨before, between, ?_⟩
  rw [← length, ← split, ending] at steps
  rw [topLevel, run_map]
  change Outcome.andThen (statementsFrom _ _ (text.length + 1) _ _) _ = _
  rw [steps]
  simp [placeholderBody]

/-- The tree of a text with its snippet is the tree of the text with two more statements. -/
lemma Module.ofText?_append_snippet (names : List String) (reserved : NameSet) {markup : Bool}
    {source : String} {m : Module}
    (ends : Module.ofTextBefore? markup source Placeholder.constantStart = some m) :
    let placeholder := Placeholder.identifier Placeholder.defaultBase reserved
    ∃ before between, Module.ofText? markup (source ++ Placeholder.snippet names placeholder) =
      some { m with body := m.body ++ placeholderBody placeholder names before between } := by
  intro placeholder
  obtain ⟨more, chars, long, goesOn⟩ := Placeholder.exists_toList_snippet names reserved
  obtain ⟨hashbang?, front, takes⟩ : ∃ hashbang? front,
      takeHashbang source.toList = (hashbang?, front) := ⟨_, _, rfl⟩
  unfold Module.ofTextBefore? at ends
  rw [takes] at ends
  obtain ⟨found, known, rfl⟩ := Option.map_eq_some_iff.1 ends
  have free : IsFreeName placeholder := Placeholder.isFreeName_identifier reserved
  obtain ⟨before, between, body⟩ := topLevel_snippet free names known long goesOn
  have text : takeHashbang (source ++ Placeholder.snippet names placeholder).toList =
      (hashbang?, front ++ '\n' :: (Placeholder.constantStart.toList ++ more)) := by
    rw [String.toList_append, chars, takeHashbang_append_line, takes]
  have declares : stringOf? (Grammar.withComments before (placeholderDecl placeholder)) = none := by
    unfold Grammar.withComments
    split_ifs <;> rfl
  have closed : (Cursor.ofText [] false 0).openDefaults = 0 := rfl
  refine ⟨before, between, ?_⟩
  unfold Module.ofText?
  rw [text]
  simp only [body, if_pos closed, placeholderBody, takeDirectives_append declares]

end Syntax

/-- A text that is read is prepared with the placeholder of its statements. -/
lemma Frontend.prepare_of_reduce {language : Frontend} {variant : ScriptVariant} {source : String}
    {S : List Statement} (reads : language.reduce variant source = .ok S) (base : String)
    (path : FsPath) :
    language.prepare variant base path source =
      .ok { source := Placeholder.append source (classify S) ((classify S).placeholder base)
            classification := classify S } := by
  unfold Frontend.prepare Frontend.analyze Frontend.statements
  rw [reads]
  rfl

/-- A text is read as a module if it has a tree. -/
lemma ScriptVariant.read_eq_ok {variant : ScriptVariant} {source : String} {m : Module} :
    variant.read source = .ok m ↔ Module.ofText? (variant = .markup) source = some m := by
  unfold ScriptVariant.read
  cases Module.ofText? (variant = .markup) source with
  | none => simp
  | some m => simp

/-- A source that can be read is reduced to its statements. -/
lemma Frontend.reduce_of_read {variant : ScriptVariant} {source : String} {m : Module}
    (reads : variant.read source = .ok m) :
    Frontend.typeScript.reduce variant source = .ok m.statements := by
  simp only [Frontend.typeScript, reads]

/-- A text that is read becomes a script unless its module is refused one. -/
lemma Frontend.isOk_transform {variant : ScriptVariant} {source : String} {m : Module}
    (reads : variant.read source = .ok m) (path : FsPath) (withMap : Bool) :
    (Frontend.typeScript.transform variant path withMap source).isOk =
      (Script.moduleText m).isOk := by
  simp only [Frontend.typeScript, reads]
  have script : (Except.ok m >>= Script.moduleText) = Script.moduleText m := rfl
  rw [script]
  cases Script.moduleText m <;> rfl

/-- The statements of a placeholder are those that its snippet stands for. -/
lemma map_reduced_placeholderBody (placeholder : String) (names : List String)
    (before between : List Comment) :
    (placeholderBody placeholder names before between).map Stmt.reduced =
      Placeholder.statements names placeholder := by
  have element : ∀ name, (placeholderSpecifier placeholder name).exportElement =
      ⟨placeholder, name, false⟩ := by
    intro name
    simp only [Specifier.exportElement, placeholderSpecifier, ModuleName.text_written]
    rfl
  have elements : (names.map (placeholderSpecifier placeholder)).map Specifier.exportElement =
      names.map fun name => ⟨placeholder, name, false⟩ := by
    rw [List.map_map]
    exact List.map_congr_left fun name _ => element name
  simp only [placeholderBody, List.map_cons, List.map_nil, Stmt.reduced_withComments]
  simp only [placeholderDecl, placeholderClause, Stmt.reduced, Stmt.kind, Linkage.kind, elements]
  rfl

/-- A text whose last statement ends before the constant of a placeholder: with its placeholder it
is read, as its statements and those that the snippet stands for, and it becomes a script if it did
without. -/
theorem reduce_prepared (variant : ScriptVariant) (path : FsPath) (source : String) (m : Module)
    (reads : variant.read source = .ok m)
    (ends : Module.ofTextBefore? (variant = .markup) source Placeholder.constantStart = some m) :
    ∃ prepared,
      Frontend.typeScript.prepare variant Placeholder.defaultBase path source = .ok prepared ∧
      Frontend.typeScript.reduce variant prepared.source =
        .ok (m.statements ++ Placeholder.statements prepared.classification.names
          prepared.classification.placeholder) ∧
      ∀ withMap, (Frontend.typeScript.transform variant path withMap prepared.source).isOk =
        (Frontend.typeScript.transform variant path withMap source).isOk := by
  have prepared := Frontend.prepare_of_reduce (Frontend.reduce_of_read reads)
    Placeholder.defaultBase path
  obtain ⟨before, between, tree⟩ := Module.ofText?_append_snippet (classify m.statements).names
    (classify m.statements).topLevelNames ends
  have reads' := ScriptVariant.read_eq_ok.2 tree
  refine ⟨_, prepared, ?_, fun withMap => ?_⟩
  · have statements := Frontend.reduce_of_read reads'
    unfold Module.statements at statements
    rw [List.map_append, map_reduced_placeholderBody] at statements
    exact statements
  · have fresh := placeholder_notMem_bound Placeholder.defaultBase m.statements
    rw [Frontend.isOk_transform reads, ← Script.isOk_moduleText_append fresh]
    exact Frontend.isOk_transform reads' path withMap

/-- A module that ends in a comment, without a semicolon before it. -/
theorem reduce_prepared_comment :
    ∃ prepared, Frontend.typeScript.prepare .plain Placeholder.defaultBase ⟨"/a.ts"⟩
        "export type A = 1 // end" = .ok prepared ∧
      Frontend.typeScript.reduce .plain prepared.source =
        .ok [{ kind := .typeAlias "A", exported := true },
          { kind := .variableDecl [.identifier "__fakeValueExport__"] },
          { kind := .exportClause { elements := [⟨"__fakeValueExport__", "A", false⟩] } }] := by
  obtain ⟨m, reads, facts⟩ := ScriptVariant.exists_of_read .plain "export type A = 1 // end"
    (fun m => m.statements = [{ kind := .typeAlias "A", exported := true }]) (by decide +kernel)
  have statements := of_decide_eq_true facts
  have ends : Module.ofTextBefore? false "export type A = 1 // end" Placeholder.constantStart =
      some m := by
    have same : Module.ofTextBefore? false "export type A = 1 // end" Placeholder.constantStart =
        Module.ofText? false "export type A = 1 // end" := by rfl
    rw [same]
    exact ScriptVariant.read_eq_ok.1 reads
  obtain ⟨prepared, ok, reduced, -⟩ :=
    reduce_prepared .plain ⟨"/a.ts"⟩ "export type A = 1 // end" m reads ends
  have known := Frontend.prepare_of_reduce (Frontend.reduce_of_read reads) Placeholder.defaultBase
    ⟨"/a.ts"⟩
  have classification : prepared.classification = classify m.statements := by
    rw [ok] at known
    rw [Except.ok.inj known]
  refine ⟨prepared, ok, ?_⟩
  rw [reduced, classification, statements]
  rfl

/-- A module that ends in the word `static`: its text is read, and its text with the placeholder is
not. -/
theorem appended_constant_modified :
    Frontend.typeScript.reduce .plain "static" = .ok [{ kind := .other }] ∧
      ∃ prepared, Frontend.typeScript.prepare .plain Placeholder.defaultBase ⟨"/a.ts"⟩ "static" =
          .ok prepared ∧
        (Frontend.typeScript.reduce .plain prepared.source).isOk = false ∧
        (Frontend.typeScript.transform .plain ⟨"/a.ts"⟩ false prepared.source).isOk = false := by
  have reads : Frontend.typeScript.reduce .plain "static" = .ok [{ kind := .other }] := by
    decide +kernel
  exact ⟨reads, _, Frontend.prepare_of_reduce reads Placeholder.defaultBase ⟨"/a.ts"⟩,
    by decide +kernel, by decide +kernel⟩

end PlaceholderExports
