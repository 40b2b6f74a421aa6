import PlaceholderExports.Proofs.Reading.Scanning
import PlaceholderExports.Text.Quoted

/-!
# Tokens of written names

An identifier name is one token of its text if what follows it is no part of a name
(`scan_name`), and the quoted literal of any text is one token, whose value is the text
(`scan_quote`).
-/

namespace PlaceholderExports.Syntax

open PlaceholderExports.Text

/-! ### Characters of names -/

/-- The characters that stand before or between tokens, or may begin what does. -/
def isTriviaStart (c : Char) : Bool := isLineBreak c || isBlank c || c == '/'

/-- The code points of those characters. -/
def triviaStarts : List Nat :=
  [0x09, 0x0A, 0x0B, 0x0C, 0x0D, 0x20, 0x2F, 0x85, 0xA0, 0x1680] ++ List.range' 0x2000 12 ++
    [0x2028, 0x2029, 0x202F, 0x205F, 0x3000, 0xFEFF]

/-- The numbers of the characters that begin blanks and comments. -/
lemma toNat_mem_triviaStarts {c : Char} (h : isTriviaStart c = true) : c.toNat ∈ triviaStarts := by
  simp only [isTriviaStart, isLineBreak, isBlank, Bool.or_eq_true, Bool.and_eq_true, beq_iff_eq,
    decide_eq_true_eq] at h
  simp only [triviaStarts, List.mem_append, List.mem_range'_1, List.mem_cons, List.not_mem_nil,
    or_false]
  obtain (line | blank) | rfl := h
  · obtain ((rfl | rfl) | rfl) | rfl := line <;> decide
  · omega
  · decide

/-- What starts a name is no blank, ends no line and begins no comment. -/
lemma isTriviaStart_of_isIdentifierStart {c : Char} (h : isIdentifierStart c = true) :
    isTriviaStart c = false := by
  have none : ∀ n ∈ triviaStarts, isIdentifierStart (Char.ofNat n) = false := by decide +kernel
  by_contra trivia
  have start := none _ (toNat_mem_triviaStarts (Bool.not_eq_false _ ▸ trivia))
  rw [Char.ofNat_toNat, h] at start
  cases start

/-- Nothing is skipped in front of any other character. -/
lemma skipTrivia_stops {c : Char} (plain : isTriviaStart c = false) (newline : Bool)
    (cs : List Char) : skipTrivia .between newline (c :: cs) = (c :: cs, newline) := by
  simp only [isTriviaStart, Bool.or_eq_false_iff, beq_eq_false_iff_ne] at plain
  obtain ⟨⟨line, blank⟩, slash⟩ := plain
  rw [skipTrivia]
  · simp [line, blank]
  · exact fun _ same _ => slash same
  · exact fun _ same _ => slash same

/-! ### Names -/

/-- A name ends in front of a character that is no part of one. -/
lemma scanNameChars_stops {d : Char} (stop : isIdentifierPart d = false) (slash : d ≠ '\\')
    (x : Char) (fuel rest : List Char) :
    scanNameChars false (x :: fuel) (d :: rest) = some ([], false, d :: rest) := by
  rw [scanNameChars_ordinary slash]
  simp [stop]

/-- A name goes as far as its characters. -/
lemma scanNameChars_parts {cs : List Char} (parts : ∀ c ∈ cs, isIdentifierPart c = true) {d : Char}
    (stop : isIdentifierPart d = false) (slash : d ≠ '\\') (rest : List Char) {fuel : List Char}
    (enough : cs.length < fuel.length) :
    scanNameChars false fuel (cs ++ d :: rest) = some (cs, false, d :: rest) := by
  induction cs generalizing fuel with
  | nil =>
    obtain ⟨x, fuel, rfl⟩ := List.exists_cons_of_length_pos
      (Nat.lt_of_le_of_lt (Nat.zero_le _) enough)
    exact scanNameChars_stops stop slash x fuel rest
  | cons c cs ih =>
    obtain ⟨x, fuel, rfl⟩ := List.exists_cons_of_length_pos
      (Nat.lt_of_le_of_lt (Nat.zero_le _) enough)
    have part : isIdentifierPart c = true := parts c List.mem_cons_self
    have ordinary : c ≠ '\\' := by
      rintro rfl
      cases part
    rw [List.cons_append, scanNameChars_ordinary ordinary,
      ih (fun e mem => parts e (List.mem_cons_of_mem c mem)) (Nat.lt_of_succ_lt_succ enough)]
    simp [part]

/-- An identifier name is a token if no part of a name follows it. -/
theorem scan_name {name : String} (valid : isIdentifierName name = true) {d : Char}
    (stop : isIdentifierPart d = false) (slash : d ≠ '\\') (rest : List Char) :
    Token.scan (name.toList ++ d :: rest) = (.name name false, d :: rest) := by
  obtain ⟨c, cs, chars, start, parts⟩ := isIdentifierName_iff.1 valid
  have named : scanName (c :: cs ++ d :: rest) = some (name, false, d :: rest) := by
    have ordinary : c ≠ '\\' := by
      rintro rfl
      cases start
    unfold scanName
    rw [List.cons_append, scanNameChars_ordinary ordinary,
      scanNameChars_parts parts stop slash rest (by simp)]
    simp [start, ← chars]
  have ordinary : ∀ e, isIdentifierStart e = false → c ≠ e := by
    rintro e no rfl
    rw [start] at no
    cases no
  rw [chars, Token.scan, List.cons_append, Token.scan?]
  · rw [← List.cons_append, named]
    simp [start]
  · exact fun _ same _ => ordinary '/' rfl same
  · exact ordinary '"' rfl
  · exact ordinary '\'' rfl
  · exact ordinary '\x60' rfl
  · exact ordinary '#' rfl

/-! ### Quoted texts -/

/-- The escape of a control character is read as that character. -/
lemma scanEscape_control {n : Nat} (control : n < 0x20) (rest : List Char) :
    scanEscape ('u' :: hexDigits 4 n ++ rest) = some (.char (Char.ofNat n), rest) := by
  interval_cases n <;> rfl

/-- The characters that are escaped by a letter or by themselves. -/
def shortEscapes : List Char := ['"', '\\', '\x08', '\x0c', '\n', '\r', '\t']

/-- A character without a short escape is written as its number, if it is a control character, and
else as itself. -/
lemma escapeChar_of_notMem {c : Char} (long : c ∉ shortEscapes) :
    escapeChar c = if c.toNat < 0x20 then '\\' :: 'u' :: hexDigits 4 c.toNat else [c] := by
  simp only [shortEscapes, List.mem_cons, List.not_mem_nil, or_false, not_or] at long
  unfold escapeChar
  split <;> simp_all

/-- A quoted character is read as one piece. -/
lemma scanPieces_escapeChar (c x : Char) (fuel rest : List Char) :
    scanPieces '"' (x :: fuel) (escapeChar c ++ rest) =
      (scanPieces '"' fuel rest).map fun (ps, rest) => (.char c :: ps, rest) := by
  by_cases short : c ∈ shortEscapes
  · simp only [shortEscapes, List.mem_cons, List.not_mem_nil, or_false] at short
    obtain rfl | rfl | rfl | rfl | rfl | rfl | rfl := short <;> rfl
  · rw [escapeChar_of_notMem short]
    simp only [shortEscapes, List.mem_cons, List.not_mem_nil, or_false, not_or] at short
    obtain ⟨quote, slash, -, -, feed, cr, -⟩ := short
    split_ifs with control
    · have escape := scanEscape_control control rest
      rw [Char.ofNat_toNat] at escape
      simp only [List.cons_append] at escape ⊢
      simp only [scanPieces, escape]
    · rw [List.singleton_append, scanPieces.eq_2 _ _ _ _ _ slash, if_neg quote]
      simp [feed, cr]

/-- An escaped text is read as its characters, up to the quote. -/
lemma scanPieces_escapeChars (cs rest : List Char) {fuel : List Char}
    (enough : cs.length < fuel.length) :
    scanPieces '"' fuel (escapeChars cs ++ '"' :: rest) = some (cs.map .char, rest) := by
  induction cs generalizing fuel with
  | nil =>
    obtain ⟨x, fuel, rfl⟩ := List.exists_cons_of_length_pos enough
    rfl
  | cons c cs ih =>
    obtain ⟨x, fuel, rfl⟩ := List.exists_cons_of_length_pos (Nat.zero_lt_of_lt enough)
    have split : escapeChars (c :: cs) = escapeChar c ++ escapeChars cs := List.flatMap_cons
    rw [split, List.append_assoc, scanPieces_escapeChar, ih (Nat.lt_of_succ_lt_succ enough)]
    rfl

/-- Characters have no surrogates to join. -/
lemma joinSurrogates_chars (cs : List Char) : joinSurrogates (cs.map .char) = cs.map .char := by
  induction cs with
  | nil => rfl
  | cons c cs ih => simp only [List.map_cons, joinSurrogates, ih]

/-- Pieces that are characters stand for them. -/
lemma StringLit.ofPieces_chars (raw cs : List Char) :
    ofPieces raw (cs.map .char) =
      { value := String.ofList cs, raw := String.ofList raw, hasLoneSurrogate := false } := by
  have value : (cs.map Piece.char).flatMap (Piece.chars false) = cs := by
    induction cs with
    | nil => rfl
    | cons c cs ih =>
      rw [List.map_cons, List.flatMap_cons, ih]
      rfl
  have whole : (cs.map Piece.char).any Piece.isSurrogate = false := by
    rw [List.any_map]
    exact List.any_eq_false.2 fun _ _ => Bool.false_ne_true
  unfold ofPieces
  simp only [joinSurrogates_chars, whole, value]

/-- An escaped text is no shorter than the text. -/
lemma length_le_escapeChars (cs : List Char) : cs.length ≤ (escapeChars cs).length := by
  induction cs with
  | nil => exact Nat.le_refl 0
  | cons c cs ih =>
    have nonempty : 0 < (escapeChar c).length := by
      unfold escapeChar
      split <;> try split
      all_goals exact Nat.succ_pos _
    have split : escapeChars (c :: cs) = escapeChar c ++ escapeChars cs := List.flatMap_cons
    rw [split, List.length_append, List.length_cons]
    omega

/-- The string literal that a text is quoted as. -/
def StringLit.quoted (text : String) : StringLit :=
  { value := text, raw := String.ofList (escapeChars text.toList), hasLoneSurrogate := false }

/-- The quoted literal of a text is a token with this text as its value. -/
theorem scan_quote (text : String) (rest : List Char) :
    Token.scan ((quote text).toList ++ rest) = (.string (.quoted text), rest) := by
  have body : (quote text).toList ++ rest = '"' :: (escapeChars text.toList ++ '"' :: rest) := by
    simp [quote]
  have pieces : scanPieces '"' (escapeChars text.toList ++ '"' :: rest)
      (escapeChars text.toList ++ '"' :: rest) = some (text.toList.map .char, rest) := by
    apply scanPieces_escapeChars
    have := length_le_escapeChars text.toList
    rw [List.length_append, List.length_cons]
    omega
  have raw :
      textBefore (escapeChars text.toList ++ '"' :: rest) rest = escapeChars text.toList := by
    unfold textBefore
    apply List.take_left'
    rw [List.length_append, List.length_cons]
    omega
  rw [body, Token.scan, Token.scan?, scanString, pieces]
  simp only [Option.map_some, Option.getD_some, StringLit.ofPieces_chars, raw, String.ofList_toList,
    StringLit.quoted]

end PlaceholderExports.Syntax
