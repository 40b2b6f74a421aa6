import PlaceholderExports.Placeholder
import PlaceholderExports.Proofs.Reading.Prefix
import PlaceholderExports.Proofs.Reading.Running
import PlaceholderExports.Proofs.Reading.Written
import PlaceholderExports.Syntax.Reduction

/-!
# Reading the placeholder

The snippet of a placeholder is two statements, whatever the placeholder is called and whatever
names it is exported under. The first one is read token by token up to the name of the placeholder
(`bareStatement_const`); its value is the same in every snippet, so it is read by known steps
(`assignment_null`). The elements of the export clause are read by induction on the names
(`gathers_specifiers`).
-/

namespace PlaceholderExports

open PlaceholderExports.Syntax

namespace Placeholder

/-! ### The characters of the snippet -/

/-- One export of the placeholder, after a blank. -/
def specifierChars (placeholder name : String) : List Char :=
  ' ' :: (placeholder.toList ++ ' ' :: 'a' :: 's' :: ' ' :: (exportName name).toList)

/-- An export clause after one of its exports. -/
def moreChars (placeholder : String) : List String → List Char
  | [] => [' ', '\x7d', ';']
  | name :: names => ',' :: (specifierChars placeholder name ++ moreChars placeholder names)

/-- An export clause after its opening brace. -/
def clauseChars (placeholder : String) : List String → List Char
  | [] => [' ', ' ', '\x7d', ';']
  | name :: names => specifierChars placeholder name ++ moreChars placeholder names

/-- The snippet between the name of its constant and the names that it exports. -/
def middleChars : List Char := " = null;\nexport \x7b".toList

/-- The snippet after the name of its constant. -/
def tailChars (placeholder : String) (names : List String) : List Char :=
  middleChars ++ clauseChars placeholder names

/-- The characters of one export, after a blank. -/
lemma toList_specifier (placeholder name : String) :
    ' ' :: (specifier placeholder name).toList = specifierChars placeholder name := by
  simp [specifier, specifierChars]

/-- The characters of all exports, up to the end of the clause. -/
lemma toList_intercalate_specifier (placeholder : String) (names : List String) :
    ' ' :: ((", ".intercalate (names.map (specifier placeholder))).toList ++ " \x7d;".toList) =
      clauseChars placeholder names := by
  cases names with
  | nil => rfl
  | cons name names =>
    induction names generalizing name with
    | nil => simp [clauseChars, moreChars, ← toList_specifier]
    | cons next names ih =>
      have split : clauseChars placeholder (name :: next :: names) =
          specifierChars placeholder name ++ ',' :: clauseChars placeholder (next :: names) := rfl
      rw [split, ← ih next, ← toList_specifier, List.map_cons, List.map_cons,
        String.intercalate_cons_cons]
      simp

/-- The characters of a snippet. -/
lemma toList_snippet (names : List String) (placeholder : String) :
    (snippet names placeholder).toList =
      "\nconst ".toList ++ (placeholder.toList ++ tailChars placeholder names) := by
  have brace : " = null;\nexport \x7b ".toList = middleChars ++ [' '] := by decide
  rw [snippet, tailChars, ← toList_intercalate_specifier]
  simp only [String.toList_append, brace, List.append_assoc, List.nil_append, List.cons_append]

/-- An export clause has at least a character for each name. -/
lemma length_le_clauseChars (placeholder : String) (names : List String) :
    names.length ≤ (clauseChars placeholder names).length := by
  have more : ∀ names, names.length ≤ (moreChars placeholder names).length := by
    intro names
    induction names with
    | nil => exact Nat.zero_le _
    | cons name names ih =>
      simp only [moreChars, List.length_cons, List.length_append]
      omega
  cases names with
  | nil => exact Nat.zero_le _
  | cons name names =>
    have := more names
    simp only [clauseChars, specifierChars, List.length_cons, List.length_append]
    omega

end Placeholder

namespace Syntax

variable {rules : Rules} {ctx : Circumstances} {c : Cursor}

/-! ### The constant -/

/-- The word `const` begins no statement that a keyword tells. -/
lemma keywordStatement?_const (h : c.token = .name "const" false) :
    Grammar.keywordStatement?.run ⟨Step.take⟩ rules ctx c = .done none c := by
  simp [Grammar.keywordStatement?, h]

/-- The word `const` tells the kind of a variable. -/
lemma variableKind?_const (h : c.token = .name "const" false) (inHead : Bool) :
    (Grammar.variableKind? inHead).run ⟨Step.take⟩ rules ctx c = .done (some .const) c.advance := by
  simp [Grammar.variableKind?, h]

/-- `const` begins the declaration of a constant, unless `enum` follows. -/
lemma bareStatement_const {s : Stmt} {d : Cursor} (h : c.token = .name "const" false)
    (next : c.advance.token.isWord "enum" = false)
    (declares : (Grammar.variableDecl .const).run ⟨Step.take⟩ rules ctx c.advance = .done s d) :
    Grammar.bareStatement.run ⟨Step.take⟩ rules ctx c = .done s d := by
  have declaration :
      Grammar.keywordDeclaration?.run ⟨Step.take⟩ rules ctx c = .done (some s) d := by
    simp [Grammar.keywordDeclaration?, Grammar.atFunction, h, next, variableKind?_const, declares]
  simp [Grammar.bareStatement, Grammar.atImport, Grammar.innerStatement, h, keywordStatement?_const,
    declaration]

/-- A name that is no keyword of this place is a pattern. -/
lemma pattern_name {name : String} (h : c.token = .name name false) (free : name ∉ reservedWords)
    (yield : name ≠ "yield") (await : name ≠ "await") :
    Grammar.pattern.run ⟨Step.take⟩ rules ctx c = .done (.name name) c.advance := by
  simp [Grammar.pattern, identifier, atIdentifier, isIdentifierHere, anyName, h, free, yield, await]

/-- A constant with a name and a value. -/
lemma variableDecl_const {name : String} {value : Expr} {d e : Cursor}
    (describes : ctx.isAmbient = false)
    (target : rules.read .pattern ctx c = .done (.name name) d) (equals : d.token = .punct "=")
    (assigned : rules.read .assignment ctx d.advance = .done value e)
    (ends : e.token = .punct ";") :
    (Grammar.variableDecl .const).run ⟨Step.take⟩ rules ctx c =
      .done (.variableDecl .const [⟨.name name, some value⟩]) e.advance := by
  have bound : (Grammar.binding .const false).run ⟨Step.take⟩ rules ctx c =
      .done ⟨.name name, some value⟩ e := by
    simp [Grammar.binding, Nested.pattern, Nested.assignment, Reads.run, target, equals, assigned,
      eatOnLine, Grammar.annotation, Grammar.isName]
  have single : (Grammar.bindings .const false).run ⟨Step.take⟩ rules ctx c =
      .done [⟨.name name, some value⟩] e := by
    simp only [Grammar.bindings, sepBy, run_bind, bound, Outcome.done_andThen]
    rw [run_many_nil (d := e) (by simp [ends])]
    rfl
  simp [Grammar.variableDecl, single, describes, run_semicolon ends]

/-- The value of every placeholder. It is the same text in every snippet, so it is read by known
steps, which are the same whatever follows. -/
lemma assignment_null (markup : Bool) {n : Nat} (deep : 4 ≤ n) (more : List Char) :
    (Rules.level ⟨Step.take⟩ n).read .assignment { markup }
        (.ofText (" null;\nexport \x7b".toList ++ more) false 0) =
      .done (.atom .null) (.ofText (";\nexport \x7b".toList ++ more) false 0) := by
  have known : (Rules.level ⟨Step.takeKnown⟩ 4).read .assignment { markup }
      (.ofText " null;\nexport \x7b".toList false 0) =
        .done (.atom .null) (.ofText ";\nexport \x7b".toList false 0) := by
    cases markup <;> rfl
  have follows := Rules.level_follows more deep .assignment { markup }
    (Cursor.extends_ofText " null;\nexport \x7b".toList more false 0)
  rw [known] at follows
  obtain ⟨c', reads, here⟩ := follows
  have settled : (Cursor.ofText ";\nexport \x7b".toList false 0).IsSettled := by decide
  rw [reads, here.eq_followed settled,
    (Cursor.extends_ofText ";\nexport \x7b".toList more false 0).eq_followed settled]

/-- Names that are identifiers at every place of a module, and no mark of an export clause. -/
structure IsFreeName (name : String) : Prop where
  valid : Text.isIdentifierName name = true
  reserved : name ∉ reservedWords
  strict : name ∉ Grammar.strictWords
  mark : name ≠ "type"

/-- A free name is none of the reserved words. -/
lemma IsFreeName.ne {name word : String} (free : IsFreeName name)
    (mem : word ∈ reservedWords ++ Grammar.strictWords) : name ≠ word := by
  rintro rfl
  rcases List.mem_append.1 mem with mem | mem
  · exact free.reserved mem
  · exact free.strict mem

/-- What stands at a cursor where no default is open: a token, and the text after it. -/
structure Cursor.Stands (c : Cursor) (token : Token) (rest : List Char) : Prop where
  token : c.token = token
  advance : c.advance = .ofText rest false 0

/-- The token at the start of a text stands behind the blanks and comments. -/
lemma Cursor.stands_ofText {text start rest : List Char} {newline newline' : Bool} {token : Token}
    (trivia : skipTrivia .between newline text = (start, newline'))
    (scan : Token.scan start = (token, rest)) : (ofText text newline 0).Stands token rest := by
  constructor <;> simp only [ofText, advance, trivia, scan]

/-- A name after a blank. -/
lemma Cursor.stands_name {name : String} (valid : Text.isIdentifierName name = true) {d : Char}
    (stop : Text.isIdentifierPart d = false) (slash : d ≠ '\\') (rest : List Char) :
    (ofText (' ' :: (name.toList ++ d :: rest)) false 0).Stands (.name name false) (d :: rest) := by
  obtain ⟨c, cs, chars, start, -⟩ := Text.isIdentifierName_iff.1 valid
  have trivia : skipTrivia .between false (' ' :: (name.toList ++ d :: rest)) =
      (name.toList ++ d :: rest, false) := by
    rw [chars, List.cons_append]
    exact skipTrivia_stops (isTriviaStart_of_isIdentifierStart start) false _
  exact stands_ofText trivia (scan_name valid stop slash rest)

/-- A quoted text after a blank. -/
lemma Cursor.stands_quote (text : String) (rest : List Char) :
    (ofText (' ' :: ((Text.quote text).toList ++ rest)) false 0).Stands (.string (.quoted text))
      rest := by
  have trivia : skipTrivia .between false (' ' :: ((Text.quote text).toList ++ rest)) =
      ((Text.quote text).toList ++ rest, false) := by
    rw [Text.quote, String.toList_ofList]
    rfl
  exact stands_ofText trivia (scan_quote text rest)

/-- The declaration of a placeholder. -/
def placeholderDecl (placeholder : String) : Stmt :=
  .variableDecl .const [⟨.name placeholder, some (.atom .null)⟩]

/-- The first statement of a snippet. -/
lemma bareStatement_placeholder {placeholder : String} (free : IsFreeName placeholder)
    (names : List String) (markup : Bool) {n : Nat} (deep : 4 ≤ n)
    (word : c.Stands (.name "const" false)
      (' ' :: (placeholder.toList ++ Placeholder.tailChars placeholder names))) :
    Grammar.bareStatement.run ⟨Step.take⟩ (.level ⟨Step.take⟩ n) { markup } c =
      .done (placeholderDecl placeholder)
        (.ofText
          ("\nexport \x7b".toList ++ Placeholder.clauseChars placeholder names) false 0) := by
  have tail : Placeholder.tailChars placeholder names =
      ' ' :: ("= null;\nexport \x7b".toList ++ Placeholder.clauseChars placeholder names) := rfl
  rw [tail] at word
  have name : c.advance.Stands (.name placeholder false)
      (' ' :: ("= null;\nexport \x7b".toList ++ Placeholder.clauseChars placeholder names)) := by
    rw [word.advance]
    exact Cursor.stands_name free.valid rfl (by decide) _
  have equals : c.advance.advance.Stands (.punct "=")
      (" null;\nexport \x7b".toList ++ Placeholder.clauseChars placeholder names) := by
    rw [name.advance]
    exact ⟨rfl, rfl⟩
  have declares : (Grammar.variableDecl .const).run ⟨Step.take⟩ (.level ⟨Step.take⟩ n) { markup }
      c.advance = .done (placeholderDecl placeholder)
        (.ofText
          ("\nexport \x7b".toList ++ Placeholder.clauseChars placeholder names) false 0) := by
    obtain ⟨m, rfl⟩ := Nat.exists_eq_add_of_le' (Nat.one_le_of_lt deep)
    have target : Grammar.pattern.run ⟨Step.take⟩ (.level ⟨Step.take⟩ m) { markup } c.advance =
        .done (.name placeholder) c.advance.advance :=
      pattern_name name.token free.reserved (free.ne (by decide)) (free.ne (by decide))
    have value := assignment_null markup deep (Placeholder.clauseChars placeholder names)
    rw [← equals.advance] at value
    exact variableDecl_const rfl target equals.token value rfl
  refine bareStatement_const word.token ?_ declares
  rw [name.token, Token.isWord_name, beq_eq_false_iff_ne]
  exact free.ne (by decide)

/-! ### The export clause -/

/-- The name of a module as it is exported. -/
def ModuleName.written (name : String) : ModuleName :=
  if Text.isIdentifierName name then .identifier name else .string (.quoted name)

/-- The name that is written for a text has that text. -/
lemma ModuleName.text_written (name : String) : (written name).text = name := by
  unfold written
  split_ifs <;> rfl

/-- A name is read as an identifier. -/
lemma moduleName_name {name : String} {escaped : Bool} (h : c.token = .name name escaped) :
    Grammar.moduleName.run ⟨Step.take⟩ rules ctx c = .done (.identifier name) c.advance := by
  simp [Grammar.moduleName, anyName, h]

/-- A whole string is read as a name in quotes. -/
lemma moduleName_string {s : StringLit} (h : c.token = .string s)
    (whole : s.hasLoneSurrogate = false) :
    Grammar.moduleName.run ⟨Step.take⟩ rules ctx c = .done (.string s) c.advance := by
  simp [Grammar.moduleName, h, whole]

/-- An exported name is read as it was before it was written. -/
lemma moduleName_written (name : String) {d : Char} (stop : Text.isIdentifierPart d = false)
    (slash : d ≠ '\\') (rest : List Char) :
    Grammar.moduleName.run ⟨Step.take⟩ rules ctx
        (.ofText (' ' :: ((Placeholder.exportName name).toList ++ d :: rest)) false 0) =
      .done (.written name) (.ofText (d :: rest) false 0) := by
  unfold Placeholder.exportName ModuleName.written
  split_ifs with valid
  · have here := Cursor.stands_name valid stop slash rest
    rw [moduleName_name here.token, here.advance]
  · have here := Cursor.stands_quote name (d :: rest)
    rw [moduleName_string here.token rfl, here.advance]

/-- An export of a placeholder. -/
def placeholderSpecifier (placeholder name : String) : Specifier :=
  ⟨.identifier placeholder, .written name, false⟩

/-- An export of the placeholder begins with the placeholder. -/
lemma Cursor.stands_specifier {placeholder : String} (free : IsFreeName placeholder) (name : String)
    (rest : List Char) :
    (ofText (Placeholder.specifierChars placeholder name ++ rest) false 0).Stands
      (.name placeholder false)
      (' ' :: 'a' :: 's' :: ' ' :: ((Placeholder.exportName name).toList ++ rest)) := by
  have chars : Placeholder.specifierChars placeholder name ++ rest =
      ' ' :: (placeholder.toList ++ ' ' :: 'a' :: 's' :: ' ' ::
        ((Placeholder.exportName name).toList ++ rest)) := by
    simp [Placeholder.specifierChars]
  rw [chars]
  exact stands_name free.valid rfl (by decide) _

/-- An export of a placeholder is read as what it is. -/
lemma specifier_placeholder (rules : Rules) (ctx : Circumstances) {placeholder : String}
    (free : IsFreeName placeholder) (name : String) {d : Char}
    (stop : Text.isIdentifierPart d = false) (slash : d ≠ '\\') (rest : List Char) :
    Grammar.specifier.run ⟨Step.take⟩ rules ctx
        (.ofText (Placeholder.specifierChars placeholder name ++ d :: rest) false 0) =
      .done (placeholderSpecifier placeholder name) (.ofText (d :: rest) false 0) := by
  have inner := Cursor.stands_specifier free name (d :: rest)
  have as : (Cursor.ofText (Placeholder.specifierChars placeholder name ++ d :: rest)
      false 0).advance.Stands (.name "as" false)
        (' ' :: ((Placeholder.exportName name).toList ++ d :: rest)) := by
    rw [inner.advance]
    exact ⟨rfl, rfl⟩
  simp [Grammar.specifier, inner.token, free.mark, moduleName_name inner.token, as.token,
    as.advance, moduleName_written name stop slash, placeholderSpecifier]

/-- The exports of a placeholder up to the end of their clause. -/
lemma gathers_specifiers {placeholder : String} (free : IsFreeName placeholder) (name : String)
    (names : List String) :
    Gathers rules ctx (itemUntil "\x7d" (itemWithComma "\x7d" Grammar.specifier))
      (.ofText (Placeholder.specifierChars placeholder name ++
        Placeholder.moreChars placeholder names) false 0)
      ((name :: names).map (placeholderSpecifier placeholder)) (.ofText [';'] false 0) := by
  induction names generalizing name with
  | nil =>
    rw [Placeholder.moreChars]
    have first := Cursor.stands_specifier free name [' ', '\x7d', ';']
    have item := specifier_placeholder rules ctx free name (d := ' ') rfl
      (by decide) ['\x7d', ';']
    have brace : (Cursor.ofText [' ', '\x7d', ';'] false 0).Stands (.punct "\x7d") [';'] :=
      ⟨rfl, rfl⟩
    refine .more (run_itemUntil ?_ (run_itemWithComma_close item brace.token)) (.stop ?_)
    · rw [first.token, Token.isPunct_name]
    · rw [run_itemUntil_close brace.token, brace.advance]
  | cons next names ih =>
    rw [Placeholder.moreChars]
    have first := Cursor.stands_specifier free name
      (',' ::
        (Placeholder.specifierChars placeholder next ++ Placeholder.moreChars placeholder names))
    have item := specifier_placeholder rules ctx free name (d := ',') rfl
      (by decide) (Placeholder.specifierChars placeholder next ++
        Placeholder.moreChars placeholder names)
    have comma : (Cursor.ofText (',' :: (Placeholder.specifierChars placeholder next ++
        Placeholder.moreChars placeholder names)) false 0).Stands (.punct ",")
          (Placeholder.specifierChars placeholder next ++
            Placeholder.moreChars placeholder names) :=
      ⟨rfl, rfl⟩
    have step := run_itemWithComma item comma.token (show "\x7d" ≠ "," by decide)
    refine .more (run_itemUntil ?_ step) ?_
    · rw [first.token, Token.isPunct_name]
    · rw [comma.advance]
      exact ih next

/-- The second statement of a snippet. -/
def placeholderClause (placeholder : String) (names : List String) : Stmt :=
  .linkage (.exportNames false (names.map (placeholderSpecifier placeholder)) none)

/-- The statements of a placeholder, with the comments before them. -/
def placeholderBody (placeholder : String) (names : List String) (before between : List Comment) :
    List Stmt :=
  [Grammar.withComments before (placeholderDecl placeholder),
    Grammar.withComments between (placeholderClause placeholder names)]

/-- The exports of a clause are read, one for each name. -/
lemma specifiers_placeholder {placeholder : String} (free : IsFreeName placeholder)
    (names : List String) :
    (Grammar.specifiers false).run ⟨Step.take⟩ rules ctx
        (.ofText (Placeholder.clauseChars placeholder names) false 0) =
      .done (names.map (placeholderSpecifier placeholder)) (.ofText [';'] false 0) := by
  have gathered : Gathers rules ctx (itemUntil "\x7d" (itemWithComma "\x7d" Grammar.specifier))
      (.ofText (Placeholder.clauseChars placeholder names) false 0)
      (names.map (placeholderSpecifier placeholder)) (.ofText [';'] false 0) := by
    cases names with
    | nil => exact .stop (run_itemUntil_close rfl)
    | cons name names => exact gathers_specifiers free name names
  have enough : (names.map (placeholderSpecifier placeholder)).length ≤
      (Cursor.ofText (Placeholder.clauseChars placeholder names) false 0).before.length := by
    rw [List.length_map]
    exact Placeholder.length_le_clauseChars placeholder names
  have read := run_many gathered enough
  simp [Grammar.specifiers, separated, manyUntil, read]

/-- `export` and a brace begin an export clause. -/
lemma bareStatement_export {s : Stmt} {d : Cursor} (word : c.token = .name "export" false)
    (brace : c.advance.token = .punct "\x7b")
    (clause : (Grammar.exportClause false).run ⟨Step.take⟩ rules ctx c.advance.advance =
      .done s d) :
    Grammar.bareStatement.run ⟨Step.take⟩ rules ctx c = .done s d := by
  simp [Grammar.bareStatement, Grammar.exportTail, Grammar.marksExport, word, brace, clause]

/-- The second statement of a snippet. -/
lemma bareStatement_clause {placeholder : String} (free : IsFreeName placeholder)
    (names : List String) :
    Grammar.bareStatement.run ⟨Step.take⟩ rules ctx
        (.ofText ("\nexport \x7b".toList ++ Placeholder.clauseChars placeholder names) false 0) =
      .done (placeholderClause placeholder names) (.ofText [] false 0) := by
  have ends : (Cursor.ofText [';'] false 0).Stands (.punct ";") [] := ⟨rfl, rfl⟩
  have locals : (names.map (placeholderSpecifier placeholder)).all
      (fun s => Grammar.isLocalName s.inner) = true := by
    simp [placeholderSpecifier, Grammar.isLocalName, free.reserved, free.strict]
  have clause : (Grammar.exportClause false).run ⟨Step.take⟩ rules ctx
      (.ofText (Placeholder.clauseChars placeholder names) false 0) =
        .done (placeholderClause placeholder names) (.ofText [] false 0) := by
    simp [Grammar.exportClause, specifiers_placeholder free names, ends.token, locals,
      run_semicolon ends.token, ends.advance, placeholderClause]
  exact bareStatement_export rfl rfl clause

end Syntax

end PlaceholderExports
