import PlaceholderExports.Proofs.Placeholder.Snippet
import PlaceholderExports.Proofs.Placeholder.Validity

/-!
# Snippets are read back

A snippet says what it was made of, whatever that was: its tokens are those of a constant that is
null and of one export clause, and no name goes beyond its own token (`tokens?_snippet`). So reading
the tokens gives back the placeholder and the names, and two snippets with the same text have the
same placeholder and the same names (`snippet_reread`).
-/

namespace PlaceholderExports

open PlaceholderExports.Syntax

namespace Syntax

/-! ### Sequences of tokens -/

/-- The tokens from a cursor up to the end of its text. The number bounds how many there are. -/
def Cursor.tokens? : Nat → Cursor → Option (List Token)
  | 0, _ => none
  | fuel + 1, c =>
    match c.token with
    | .eof => some []
    | .bad => none
    | token => (tokens? fuel c.advance).map (token :: ·)

/-- The tokens of a text, if there is nothing else in it but blanks and comments. -/
def tokens? (text : String) : Option (List Token) :=
  Cursor.tokens? (text.length + 1) (.ofText text.toList false 0)

/-- The tokens of a text are these. -/
def Yields (text : List Char) (ts : List Token) : Prop :=
  ∀ fuel, ts.length < fuel → Cursor.tokens? fuel (.ofText text false 0) = some ts

/-- The empty text has no tokens. -/
lemma Yields.nil : Yields [] [] := by
  intro fuel enough
  cases fuel with
  | zero => cases enough
  | succ fuel => rfl

/-- Whether a token has been written: it is not the end of the text, and it is not unreadable. -/
def Token.isWritten : Token → Bool
  | .eof | .bad => false
  | _ => true

/-- The token in front of a text comes before the tokens of the rest. -/
lemma Yields.cons {text rest : List Char} {token : Token} {ts : List Token} (more : Yields rest ts)
    (here : (Cursor.ofText text false 0).Stands token rest) (written : token.isWritten = true) :
    Yields text (token :: ts) := by
  intro fuel enough
  cases fuel with
  | zero => cases enough
  | succ fuel =>
    unfold Cursor.tokens?
    rw [here.token, here.advance, more fuel (Nat.lt_of_succ_lt_succ enough)]
    cases token with
    | eof => cases written
    | bad => cases written
    | _ => rfl

/-- Tokens that are not more than the characters are found with the steps there are. -/
lemma tokens?_of_yields {text : String} {ts : List Token} (h : Yields text.toList ts)
    (short : ts.length ≤ text.toList.length) : tokens? text = some ts := by
  rw [String.length_toList] at short
  exact h _ (Nat.lt_succ_of_le short)

end Syntax

/-! ### What a snippet says -/

/-- A constant that is null, and the exports of a clause after it: what is exported and under which
name. -/
structure ExportedConstant where
  name : String
  exports : List (String × String)
deriving DecidableEq, Repr

namespace ExportedConstant

/-- The name that a token stands for: a name for itself and a string for its value. -/
def nameOf? : Token → Option String
  | .name name _ => some name
  | .string s => some s.value
  | _ => none

/-- The exports of a clause after its opening brace, if the tokens end with the clause. -/
def exportsOf? : List Token → Option (List (String × String))
  | [.punct "\x7d", .punct ";"] => some []
  | [.name inner _, .name "as" false, outer, .punct "\x7d", .punct ";"] =>
    (nameOf? outer).map fun name => [(inner, name)]
  | .name inner _ :: .name "as" false :: outer :: .punct "," :: more => do
    let name ← nameOf? outer
    let others ← exportsOf? more
    return (inner, name) :: others
  | _ => none

/-- The constant of some tokens, if they are its declaration and an export clause. -/
def ofTokens? : List Token → Option ExportedConstant
  | .name "const" false :: .name name _ :: .punct "=" :: .name "null" false :: .punct ";" ::
      .name "export" false :: .punct "\x7b" :: clause =>
    (exportsOf? clause).map fun exports => ⟨name, exports⟩
  | _ => none

/-- The constant of a text, if it is nothing but a declaration and an export clause. -/
def ofText? (text : String) : Option ExportedConstant := tokens? text >>= ofTokens?

end ExportedConstant

namespace Placeholder

open ExportedConstant

/-! ### The tokens of a snippet -/

/-- The token of an exported name. -/
def exportToken (name : String) : Token :=
  if Text.isIdentifierName name then .name name false else .string (.quoted name)

/-- The tokens of one export of the placeholder. -/
def specifierTokens (placeholder name : String) : List Token :=
  [.name placeholder false, .name "as" false, exportToken name]

/-- The tokens of an export clause after one of its exports. -/
def moreTokens (placeholder : String) : List String → List Token
  | [] => [.punct "\x7d", .punct ";"]
  | name :: names =>
    .punct "," :: (specifierTokens placeholder name ++ moreTokens placeholder names)

/-- The tokens of an export clause after its opening brace. -/
def clauseTokens (placeholder : String) : List String → List Token
  | [] => [.punct "\x7d", .punct ";"]
  | name :: names => specifierTokens placeholder name ++ moreTokens placeholder names

/-- The tokens of a snippet. -/
def snippetTokens (names : List String) (placeholder : String) : List Token :=
  [.name "const" false, .name placeholder false, .punct "=", .name "null" false, .punct ";",
    .name "export" false, .punct "\x7b"] ++ clauseTokens placeholder names

/-- There are no more tokens than characters. -/
lemma length_snippetTokens_le (names : List String) (placeholder : String) :
    (snippetTokens names placeholder).length ≤ (snippet names placeholder).toList.length := by
  have clause :
      (clauseTokens placeholder names).length ≤ (clauseChars placeholder names).length := by
    cases names with
    | nil => exact Nat.le_add_left 2 2
    | cons name names =>
      induction names generalizing name with
      | nil =>
        simp only [clauseTokens, moreTokens, specifierTokens, clauseChars, moreChars,
          specifierChars, List.length_append, List.length_cons, List.length_nil]
        omega
      | cons next names ih =>
        have ih := ih next
        simp only [clauseTokens, moreTokens, specifierTokens, clauseChars, moreChars,
          specifierChars, List.length_append, List.length_cons, List.length_nil] at ih ⊢
        omega
  have front : "\nconst ".toList.length = 7 := rfl
  have middle : middleChars.length = 17 := rfl
  rw [toList_snippet, tailChars, snippetTokens]
  simp only [List.length_append, List.length_cons, List.length_nil, front, middle]
  omega

/-- An exported name is one token, however it is written. -/
lemma yields_exportName (name : String) {d : Char} (stop : Text.isIdentifierPart d = false)
    (slash : d ≠ '\\') {rest : List Char} {ts : List Token} (more : Yields (d :: rest) ts) :
    Yields (' ' :: ((exportName name).toList ++ d :: rest)) (exportToken name :: ts) := by
  unfold exportName exportToken
  split_ifs with valid
  · exact more.cons (Cursor.stands_name valid stop slash rest) rfl
  · exact more.cons (Cursor.stands_quote name (d :: rest)) rfl

section Tokens

variable {placeholder : String} (isName : Text.isIdentifierName placeholder = true)
include isName

/-- One export of the placeholder has its three tokens. -/
lemma yields_specifier (name : String) {d : Char} (stop : Text.isIdentifierPart d = false)
    (slash : d ≠ '\\') {rest : List Char} {ts : List Token} (more : Yields (d :: rest) ts) :
    Yields (specifierChars placeholder name ++ d :: rest)
      (specifierTokens placeholder name ++ ts) := by
  have outer := yields_exportName name stop slash more
  have as : Yields (' ' :: 'a' :: 's' :: ' ' :: ((exportName name).toList ++ d :: rest))
      (.name "as" false :: exportToken name :: ts) :=
    outer.cons ⟨rfl, rfl⟩ rfl
  have chars : specifierChars placeholder name ++ d :: rest =
      ' ' :: (placeholder.toList ++ ' ' :: 'a' :: 's' :: ' ' ::
        ((exportName name).toList ++ d :: rest)) := by
    simp [specifierChars]
  rw [chars]
  exact as.cons (Cursor.stands_name isName rfl (by decide) _) rfl

/-- An export clause after its opening brace. Behind an export stands a blank or a comma, so no name
runs on. -/
lemma yields_clause (names : List String) :
    Yields (clauseChars placeholder names) (clauseTokens placeholder names) := by
  have semicolon : Yields [';'] [.punct ";"] := Yields.nil.cons ⟨rfl, rfl⟩ rfl
  cases names with
  | nil => exact semicolon.cons ⟨rfl, rfl⟩ rfl
  | cons name names =>
    induction names generalizing name with
    | nil =>
      have brace : Yields [' ', '\x7d', ';'] [.punct "\x7d", .punct ";"] :=
        semicolon.cons ⟨rfl, rfl⟩ rfl
      exact yields_specifier isName name rfl (by decide) brace
    | cons next names ih =>
      have comma : Yields (',' :: clauseChars placeholder (next :: names))
          (.punct "," :: clauseTokens placeholder (next :: names)) :=
        (ih next).cons ⟨rfl, rfl⟩ rfl
      exact yields_specifier isName name rfl (by decide) comma

/-- The part of a snippet between the name of its constant and the names that it exports. -/
lemma yields_tail (names : List String) :
    Yields (tailChars placeholder names)
      ([.punct "=", .name "null" false, .punct ";", .name "export" false, .punct "\x7b"] ++
        clauseTokens placeholder names) := by
  have brace : Yields (" \x7b".toList ++ clauseChars placeholder names)
      (.punct "\x7b" :: clauseTokens placeholder names) :=
    (yields_clause isName names).cons ⟨rfl, rfl⟩ rfl
  have exports : Yields ("\nexport \x7b".toList ++ clauseChars placeholder names) (_ :: _) :=
    brace.cons ⟨rfl, rfl⟩ rfl
  have semicolon : Yields (";\nexport \x7b".toList ++ clauseChars placeholder names) (_ :: _) :=
    exports.cons ⟨rfl, rfl⟩ rfl
  have value : Yields (" null;\nexport \x7b".toList ++ clauseChars placeholder names) (_ :: _) :=
    semicolon.cons ⟨rfl, rfl⟩ rfl
  exact value.cons ⟨rfl, rfl⟩ rfl

/-- The tokens of a snippet, with as many steps as they need. -/
lemma yields_snippet (names : List String) :
    Yields (snippet names placeholder).toList (snippetTokens names placeholder) := by
  have tail : tailChars placeholder names =
      ' ' :: ("= null;\nexport \x7b".toList ++ clauseChars placeholder names) := rfl
  have name : (Cursor.ofText (' ' :: (placeholder.toList ++ tailChars placeholder names)) false
      0).Stands (.name placeholder false) (tailChars placeholder names) := by
    rw [tail]
    exact Cursor.stands_name isName rfl (by decide) _
  have named := (yields_tail isName names).cons name rfl
  rw [toList_snippet]
  exact named.cons ⟨rfl, rfl⟩ rfl

/-- The tokens of a snippet are those of the constant and of its exports, one for each name. -/
theorem tokens?_snippet (names : List String) :
    tokens? (snippet names placeholder) = some (snippetTokens names placeholder) :=
  tokens?_of_yields (yields_snippet isName names) (length_snippetTokens_le names placeholder)

end Tokens

/-! ### Reading the tokens -/

/-- The token of an exported name is read as that name. -/
lemma nameOf?_exportToken (name : String) : nameOf? (exportToken name) = some name := by
  unfold exportToken
  split_ifs <;> rfl

/-- The tokens of an export clause are read as one export of the placeholder for each name. -/
lemma exportsOf?_clauseTokens (placeholder : String) (names : List String) :
    exportsOf? (clauseTokens placeholder names) =
      some (names.map fun name => (placeholder, name)) := by
  cases names with
  | nil => rfl
  | cons name names =>
    induction names generalizing name with
    | nil =>
      have clause : clauseTokens placeholder [name] =
          [.name placeholder false, .name "as" false, exportToken name, .punct "\x7d",
            .punct ";"] := rfl
      rw [clause, exportsOf?, nameOf?_exportToken]
      rfl
    | cons next names ih =>
      have clause : clauseTokens placeholder (name :: next :: names) =
          .name placeholder false :: .name "as" false :: exportToken name :: .punct "," ::
            clauseTokens placeholder (next :: names) := rfl
      rw [clause, exportsOf?, nameOf?_exportToken, ih]
      rfl

/-- A snippet is read as the constant and one export of it for each name, in order, and nothing
else. So a snippet that reads the same has the same placeholder and the same names. -/
theorem snippet_reread (names : List String) {placeholder : String}
    (valid : isValidName placeholder = true) :
    ExportedConstant.ofText? (snippet names placeholder) =
        some ⟨placeholder, names.map fun name => (placeholder, name)⟩ ∧
      ∀ names' placeholder', isValidName placeholder' = true →
        snippet names' placeholder' = snippet names placeholder →
        names' = names ∧ placeholder' = placeholder := by
  have reads : ∀ names {placeholder}, isValidName placeholder = true →
      ExportedConstant.ofText? (snippet names placeholder) =
        some ⟨placeholder, names.map fun name => (placeholder, name)⟩ := by
    intro names placeholder valid
    have tokens := tokens?_snippet (isValidName_iff.1 valid).1 names
    unfold ExportedConstant.ofText?
    rw [tokens]
    change (exportsOf? (clauseTokens placeholder names)).map _ = _
    rw [exportsOf?_clauseTokens]
    rfl
  refine ⟨reads names valid, fun names' placeholder' valid' same => ?_⟩
  have read' := reads names' valid'
  rw [same, reads names valid] at read'
  obtain ⟨rfl, exports⟩ := ExportedConstant.mk.inj (Option.some.inj read')
  have outer := congrArg (List.map Prod.snd) exports
  simp only [List.map_map, Function.comp_def, List.map_id'] at outer
  exact ⟨outer.symm, rfl⟩

/-- Names that would end their literal, the clause or the line if they were written as they are. -/
theorem snippet_reread_hostile :
    let names := ["a\"b\\", "\x7d; x as y", "// z", "\n\x00\u2028", "default", ""]
    ExportedConstant.ofText? (snippet names "$fake") =
      some ⟨"$fake", names.map fun name => ("$fake", name)⟩ := by
  intro names
  obtain ⟨read, -⟩ := snippet_reread names (show isValidName "$fake" = true by decide +kernel)
  exact read

end Placeholder

end PlaceholderExports
