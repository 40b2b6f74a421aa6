import Mathlib
import PlaceholderExports.Syntax.Token

/-!
# Scanning a text that goes on

A scanner that stops before the end of a text has seen what made it stop, so it reads the same when
the text goes on (`Carries`, `IsLocal`). There is one lemma for each scanner. A token that leaves
three characters is then the token of every text that goes on (`scan_append`): three characters are
as many as tell a punctuator from a longer one.
-/

namespace PlaceholderExports.Syntax

open PlaceholderExports.Text (isIdentifierStart isIdentifierPart)

/-- What is read of a text and leaves a part of it is read of the longer text as well. -/
def Carries {α : Type} (more : List Char) (r r' : Option (α × List Char)) : Prop :=
  ∀ ⦃a rest⦄, r = some (a, rest) → rest ≠ [] → r' = some (a, rest ++ more)

/-- A scanner reads the same when the text goes on, if it stops before its end. -/
def IsLocal {α : Type} (scan : List Char → Option (α × List Char)) : Prop :=
  ∀ more cs, Carries more (scan cs) (scan (cs ++ more))

section Carries

variable {α β : Type} {more : List Char} {r r' : Option (α × List Char)}

/-- Where nothing is read, there is nothing to carry over. -/
lemma Carries.of_none : Carries more none r' := nofun

/-- What is found is found before more text. -/
lemma Carries.found (a : α) (rest : List Char) :
    Carries more (some (a, rest)) (some (a, rest ++ more)) := by
  intro a rest same _
  cases same
  rfl

/-- What is read may be turned into something else. -/
lemma Carries.map (h : Carries more r r') (f : α → β) :
    Carries more (r.map fun x => (f x.1, x.2)) (r'.map fun x => (f x.1, x.2)) := by
  intro b rest read known
  obtain ⟨⟨a, rest⟩, ok, same⟩ := Option.map_eq_some_iff.1 read
  cases same
  rw [h ok known]
  rfl

/-- What is read may be refused, if the condition looks at one more character at most. -/
lemma Carries.filter (h : Carries more r r') {p : α × List Char → Bool}
    (next : ∀ a c rest, p (a, c :: rest) = p (a, c :: (rest ++ more))) :
    Carries more (r.filter p) (r'.filter p) := by
  intro a rest same known
  obtain ⟨ok, holds⟩ := Option.filter_eq_some_iff.1 same
  obtain ⟨c, rest, rfl⟩ := List.exists_cons_of_ne_nil known
  rw [h ok known]
  exact Option.filter_eq_some_iff.2 ⟨rfl, by rw [List.cons_append, ← next, holds]⟩

end Carries

/-! ### Runs of characters -/

section Runs

variable {p : Char → Bool} {cs : List Char}

/-- A run of characters that stops is the same when the text goes on. -/
lemma takeWhile_append_of_stops (stops : cs.dropWhile p ≠ []) (more : List Char) :
    (cs ++ more).takeWhile p = cs.takeWhile p := by
  rw [List.takeWhile_append, if_neg]
  intro all
  have whole := congrArg List.length (List.takeWhile_append_dropWhile (p := p) (l := cs))
  rw [List.length_append, all] at whole
  exact stops (List.eq_nil_of_length_eq_zero (by omega))

/-- Behind a run of characters that stops is the rest and then what follows. -/
lemma dropWhile_append_of_stops (stops : cs.dropWhile p ≠ []) (more : List Char) :
    (cs ++ more).dropWhile p = cs.dropWhile p ++ more := by
  rw [List.dropWhile_append, if_neg]
  rwa [List.isEmpty_iff]

end Runs

/-! ### Escapes -/

/-- A code point says itself where it ends. -/
lemma scanCodePoint_append {cs rest : List Char} {n : Nat} (h : scanCodePoint cs = some (n, rest))
    (more : List Char) : scanCodePoint (cs ++ more) = some (n, rest ++ more) := by
  unfold scanCodePoint at h
  split at h
  · rename_i cs
    dsimp only at h
    split at h
    · rename_i tail stop
      split_ifs at h with bad
      cases h
      have stops : cs.dropWhile (isDigitIn 16) ≠ [] := by
        rw [stop]
        exact List.cons_ne_nil _ _
      simp only [List.cons_append, scanCodePoint, takeWhile_append_of_stops stops,
        dropWhile_append_of_stops stops, stop]
      rw [if_neg bad]
    · cases h
  · rename_i a b c d cs brace
    split_ifs at h with digits
    cases h
    simp only [List.cons_append, scanCodePoint, if_pos digits]
  · cases h

/-- An octal escape that stops before the end of a text is the same when the text goes on. -/
lemma scanOctal_append {cs : List Char} (known : (scanOctal cs).2 ≠ []) (more : List Char) :
    scanOctal (cs ++ more) = ((scanOctal cs).1, (scanOctal cs).2 ++ more) := by
  match cs with
  | [] => exact absurd rfl known
  | [a] => exact absurd rfl known
  | [a, b] =>
    by_cases digit : isDigitIn 8 b = true
    · simp only [scanOctal, if_pos digit] at known
      exact absurd rfl known
    · cases more with
      | nil => simp
      | cons c more => simp [scanOctal, digit]
  | a :: b :: c :: cs =>
    simp only [scanOctal, List.cons_append]
    split_ifs <;> rfl

/-- The characters that stand for something of their own after a backslash. -/
def escapeLetters : List Char := ['n', 't', 'r', 'b', 'v', 'f', 'x', 'u']

/-- An escape of a character without a meaning of its own. -/
lemma scanEscape_other {c : Char} {cs : List Char} (letter : c ∉ escapeLetters)
    (single : c = '\r' → cs.head? ≠ some '\n') :
    scanEscape (c :: cs) =
      if isLineBreak c then some (.nothing, cs)
      else if isDigitIn 8 c then some (scanOctal (c :: cs))
      else some (.char c, cs) := by
  simp only [escapeLetters, List.mem_cons, List.not_mem_nil, or_false, not_or] at letter
  rw [scanEscape.eq_def]
  split <;> simp_all

/-- An escape that leaves a part of the text is the same when the text goes on. -/
lemma scanEscape_isLocal : IsLocal scanEscape := by
  intro more cs
  cases cs with
  | nil => exact .of_none
  | cons c cs =>
    rw [List.cons_append]
    by_cases letter : c ∈ escapeLetters
    · simp only [escapeLetters, List.mem_cons, List.not_mem_nil, or_false] at letter
      obtain rfl | rfl | rfl | rfl | rfl | rfl | rfl | rfl := letter
      case inr.inr.inr.inr.inr.inr.inl =>
        match cs with
        | [] => exact .of_none
        | [a] => exact .of_none
        | a :: b :: cs =>
          simp only [scanEscape, List.cons_append]
          split_ifs with digits
          · exact .found _ _
          · exact .of_none
      case inr.inr.inr.inr.inr.inr.inr =>
        have carries : Carries more (scanCodePoint cs) (scanCodePoint (cs ++ more)) :=
          fun _ _ read _ => scanCodePoint_append read more
        exact carries.map Piece.ofNat
      all_goals exact .found _ _
    · by_cases crlf : c = '\r' ∧ cs.head? = some '\n'
      · obtain ⟨rfl, head⟩ := crlf
        obtain ⟨cs, rfl⟩ := List.head?_eq_some_iff.1 head
        exact .found _ _
      · have single : c = '\r' → cs.head? ≠ some '\n' := fun break' feed => crlf ⟨break', feed⟩
        intro piece rest h known
        -- the character is not the last one, so the next one is known
        have longer : cs ≠ [] → scanEscape (c :: (cs ++ more)) =
            if isLineBreak c then some (.nothing, cs ++ more)
            else if isDigitIn 8 c then some (scanOctal (c :: (cs ++ more)))
            else some (.char c, cs ++ more) := by
          intro some
          apply scanEscape_other letter
          rw [List.head?_append_of_ne_nil _ some]
          exact single
        rw [scanEscape_other letter single] at h
        split_ifs at h longer with line digit
        · cases h
          exact longer known
        · have octal : scanOctal (c :: cs) = (piece, rest) := Option.some.inj h
          have some : cs ≠ [] := by
            rintro rfl
            exact known (congrArg Prod.snd octal).symm
          rw [longer some, ← List.cons_append, scanOctal_append (by rw [octal]; exact known), octal]
        · cases h
          exact longer known

/-! ### Strings -/

/-- A string that ends is the same when the text goes on. -/
lemma scanPieces_carries {quote : Char} (more : List Char) {fuel fuel' : List Char}
    (enough : fuel.length ≤ fuel'.length) (cs : List Char) :
    Carries more (scanPieces quote fuel cs) (scanPieces quote fuel' (cs ++ more)) := by
  induction fuel generalizing cs fuel' with
  | nil => cases cs <;> exact .of_none
  | cons x fuel ih =>
    obtain ⟨y, fuel', rfl⟩ := List.exists_cons_of_length_pos (show 0 < fuel'.length by
      rw [List.length_cons] at enough
      omega)
    have enough : fuel.length ≤ fuel'.length := Nat.le_of_succ_le_succ enough
    cases cs with
    | nil => exact .of_none
    | cons c cs =>
      rw [List.cons_append]
      by_cases escape : c = '\\'
      · subst escape
        simp only [scanPieces]
        cases read : scanEscape cs with
        | none => exact .of_none
        | some r =>
          obtain ⟨piece, cs'⟩ := r
          intro pieces rest h known
          have some : cs' ≠ [] := by
            rintro rfl
            cases fuel <;> cases h
          rw [scanEscape_isLocal more cs read some]
          exact (ih enough cs').map (piece :: ·) h known
      · rw [scanPieces.eq_2 _ _ _ _ _ escape, scanPieces.eq_2 _ _ _ _ _ escape]
        split_ifs with close line
        · exact .found _ _
        · exact .of_none
        · exact (ih enough cs).map (.char c :: ·)

/-- A string ends with its quote, whatever follows. -/
lemma scanString_isLocal (quote : Char) : IsLocal (scanString quote) := by
  intro more cs s rest h known
  unfold scanString at h ⊢
  rw [Option.map_eq_some_iff] at h
  obtain ⟨⟨pieces, rest'⟩, read, same⟩ := h
  obtain ⟨rfl, rfl⟩ := Prod.mk.inj same
  have enough : cs.length ≤ (cs ++ more).length := by simp
  rw [scanPieces_carries more enough cs read known]
  have raw : textBefore (cs ++ more) (rest' ++ more) = textBefore cs rest' := by
    unfold textBefore
    rw [List.length_append, List.length_append, Nat.add_sub_add_right]
    exact List.take_append_of_le_length (by omega)
  simp only [Option.map_some, raw]

/-! ### Numbers -/

/-- Digits that stop are the same when the text goes on. -/
lemma scanDigits_isLocal (base : Nat) : IsLocal (scanDigits base) := by
  intro more cs digits rest h known
  unfold scanDigits at h ⊢
  dsimp only at h ⊢
  split_ifs at h with fit
  cases h
  rw [takeWhile_append_of_stops known, dropWhile_append_of_stops known, if_pos fit]

/-- Behind digits is what is no digit and no separator. -/
lemma scanDigits_rest {base : Nat} {cs digits rest : List Char}
    (h : scanDigits base cs = some (digits, rest)) :
    rest = cs.dropWhile fun c => isDigitIn base c || c == '_' := by
  unfold scanDigits at h
  dsimp only at h
  split_ifs at h
  cases h
  rfl

/-- The digits of an exponent that stop are the same when the text goes on. -/
lemma scanExponentDigits_isLocal (negative : Bool) : IsLocal (scanExponentDigits negative) := by
  intro more cs n rest h known
  unfold scanExponentDigits at h ⊢
  split at h
  · rename_i d ds rest' read
    cases h
    rw [scanDigits_isLocal 10 more cs read known]
  · cases h

/-- An exponent that stops is the same when the text goes on. -/
lemma scanExponent_isLocal : IsLocal scanExponent := by
  intro more cs n rest h known
  match cs with
  | [] =>
    cases h
    exact absurd rfl known
  | e :: cs =>
    rw [List.cons_append]
    by_cases mark : (e = 'e' || e = 'E') = true
    · simp only [scanExponent, if_pos mark] at h ⊢
      split at h
      · exact scanExponentDigits_isLocal true more _ h known
      · exact scanExponentDigits_isLocal false more _ h known
      · rename_i minus plus
        cases cs with
        | nil => cases h
        | cons c cs =>
          rw [List.cons_append]
          split
          · rename_i same
            exact (minus cs (by rw [(List.cons.inj same).1])).elim
          · rename_i same
            exact (plus cs (by rw [(List.cons.inj same).1])).elim
          · exact scanExponentDigits_isLocal false more _ h known
    · simp only [scanExponent, if_neg mark] at h ⊢
      cases h
      rfl

/-- A number in another base that stops is the same when the text goes on. -/
lemma scanRadix_isLocal (base : Nat) (mark : List Char) : IsLocal (scanRadix base mark) := by
  intro more cs token rest h known
  unfold scanRadix at h ⊢
  split at h
  · rename_i d ds rest' read
    cases h
    rw [scanDigits_isLocal base more cs read (List.cons_ne_nil _ _)]
    rfl
  · rename_i d ds rest' big read
    cases h
    rw [scanDigits_isLocal base more cs read known]
    obtain ⟨c, rest, rfl⟩ := List.exists_cons_of_ne_nil known
    rw [List.cons_append]
    split
    · rename_i same
      cases same
      exact (big _ rfl).elim
    · rename_i same
      cases same
      rfl
    · rename_i other
      exact (other _ _ _ rfl).elim
  · cases h

/-- A number that begins with its point and stops is the same when the text goes on. -/
lemma scanPoint_isLocal : IsLocal scanPoint := by
  intro more cs digits rest h known
  unfold scanPoint at h
  split at h
  · exact scanDigits_isLocal 10 more _ h known
  · rename_i noPoint
    cases h
    obtain ⟨c, rest, rfl⟩ := List.exists_cons_of_ne_nil known
    rw [List.cons_append, scanPoint]
    intro tail same
    exact noPoint rest (by rw [(List.cons.inj same).1])

/-- A fraction that stops is the same when the text goes on. -/
lemma scanFraction_isLocal (whole : List Char) : IsLocal (scanFraction whole) := by
  intro more cs token rest h known
  unfold scanFraction at h ⊢
  split at h
  · rename_i fraction rest' read
    have some : rest' ≠ [] := by
      rintro rfl
      cases h
      exact known rfl
    rw [scanPoint_isLocal more cs read some]
    exact (scanExponent_isLocal more rest').map
      (fun e => Token.number
        { digits := digitsValue 10 (whole ++ fraction), exponent := e - fraction.length }) h known
  · cases h

/-- A decimal number that stops is the same when the text goes on. -/
lemma scanDecimal_isLocal : IsLocal scanDecimal := by
  intro more cs token rest h known
  unfold scanDecimal at h ⊢
  split at h
  · cases h
  · rename_i whole rest' read
    have some : rest' ≠ [] := by
      rintro rfl
      apply known
      split at h
      · split_ifs at h <;> cases h <;> rfl
      · cases h
        rfl
    have stops : cs.dropWhile (fun c => isDigitIn 10 c || c == '_') ≠ [] := by
      rw [← scanDigits_rest read]
      exact some
    rw [scanDigits_isLocal 10 more cs read some]
    dsimp only
    split at h
    · rename_i d ds
      rw [takeWhile_append_of_stops stops]
      split_ifs at h ⊢
      · cases h
        rfl
      · exact scanFraction_isLocal _ more _ h known
    · rename_i decimal
      obtain ⟨c, tail, rfl⟩ := List.exists_cons_of_ne_nil some
      rw [List.cons_append]
      split
      · rename_i same
        obtain ⟨rfl, rfl⟩ := List.cons.inj same
        cases h
        rfl
      · rename_i other
        split at h
        · rename_i same
          exact (other (tail ++ more) (by rw [(List.cons.inj same).1])).elim
        · exact scanFraction_isLocal _ more _ h known

/-- A numeral that stops is the same when the text goes on. -/
lemma scanNumeral_isLocal : IsLocal scanNumeral := by
  intro more cs token rest h known
  unfold scanNumeral at h
  split at h
  · rename_i x tail
    rw [List.cons_append, List.cons_append, scanNumeral]
    split_ifs at h ⊢
    · exact scanRadix_isLocal _ _ more _ h known
    · exact scanRadix_isLocal _ _ more _ h known
    · exact scanRadix_isLocal _ _ more _ h known
    · exact scanDecimal_isLocal more _ h known
  · exact scanFraction_isLocal _ more _ h known
  · rename_i zero point
    match cs with
    | [] =>
      cases h
      exact absurd rfl known
    | c :: cs =>
      rw [List.cons_append, scanNumeral]
      · exact scanDecimal_isLocal more _ h known
      · intro x tail same
        obtain ⟨rfl, rest⟩ := List.cons.inj same
        cases cs with
        | nil =>
          cases h
          exact known rfl
        | cons d cs => exact zero d cs rfl
      · intro tail same
        obtain ⟨rfl, -⟩ := List.cons.inj same
        exact point cs rfl

/-- A number that stops is the same when the text goes on. -/
lemma scanNumber_isLocal : IsLocal scanNumber := by
  intro more cs
  exact (scanNumeral_isLocal more cs).filter fun _ _ _ => rfl

/-! ### Names -/

/-- A name goes on with a character that may stand in it, and ends at any other. -/
lemma scanNameChars_ordinary {start : Bool} {x c : Char} {fuel cs : List Char}
    (ordinary : c ≠ '\\') :
    scanNameChars start (x :: fuel) (c :: cs) =
      if (if start then isIdentifierStart c else isIdentifierPart c) then
        (scanNameChars false fuel cs).map fun (cs, escaped, rest) => (c :: cs, escaped, rest)
      else if start then none
      else some ([], false, c :: cs) := by
  rw [scanNameChars.eq_2]
  · simp [ordinary]
  · intro _ same _
    exact ordinary same

/-- A backslash in a name begins an escape, or else there is no name. -/
lemma scanNameChars_backslash {start : Bool} {x : Char} {fuel cs : List Char}
    (alone : cs.head? ≠ some 'u') : scanNameChars start (x :: fuel) ('\\' :: cs) = none := by
  rw [scanNameChars.eq_2]
  · cases start <;> rfl
  · rintro tail - rfl
    exact alone rfl

/-- A name at the end of a text leaves nothing. -/
lemma scanNameChars_nil {start : Bool} {fuel name rest : List Char} {escaped : Bool}
    (h : scanNameChars start fuel [] = some (name, escaped, rest)) : rest = [] := by
  cases start <;> cases fuel <;> simp_all [scanNameChars]

/-- The characters of a name that ends inside a text are the same when the text goes on. -/
lemma scanNameChars_append {start : Bool} (more : List Char) {fuel fuel' : List Char}
    (enough : fuel.length ≤ fuel'.length) {cs name rest : List Char} {escaped : Bool}
    (h : scanNameChars start fuel cs = some (name, escaped, rest)) (known : rest ≠ []) :
    scanNameChars start fuel' (cs ++ more) = some (name, escaped, rest ++ more) := by
  induction fuel generalizing start cs name escaped fuel' with
  | nil =>
    cases cs with
    | nil => exact absurd (scanNameChars_nil h) known
    | cons c cs => simp [scanNameChars] at h
  | cons x fuel ih =>
    obtain ⟨y, fuel', rfl⟩ := List.exists_cons_of_length_pos (show 0 < fuel'.length by
      rw [List.length_cons] at enough
      omega)
    have enough : fuel.length ≤ fuel'.length := Nat.le_of_succ_le_succ enough
    cases cs with
    | nil => exact absurd (scanNameChars_nil h) known
    | cons c cs =>
      rw [List.cons_append]
      by_cases escape : c = '\\'
      · subst escape
        by_cases unicode : cs.head? = some 'u'
        · obtain ⟨cs, rfl⟩ := List.head?_eq_some_iff.1 unicode
          simp only [scanNameChars, List.cons_append] at h ⊢
          split at h
          · rename_i n tail read
            by_cases fits : (if start = true then isIdentifierStart (Char.ofNat n)
                else isIdentifierPart (Char.ofNat n)) = true
            · rw [if_pos fits] at h
              obtain ⟨⟨name', escaped', rest'⟩, ok, same⟩ := Option.map_eq_some_iff.1 h
              cases same
              rw [scanCodePoint_append read]
              simp only [if_pos fits, ih enough ok, Option.map_some]
            · rw [if_neg fits] at h
              cases h
          · cases h
        · rw [scanNameChars_backslash unicode] at h
          cases h
      · rw [scanNameChars_ordinary escape] at h ⊢
        by_cases fits : (if start = true then isIdentifierStart c else isIdentifierPart c) = true
        · rw [if_pos fits] at h ⊢
          obtain ⟨⟨name', escaped', rest'⟩, ok, same⟩ := Option.map_eq_some_iff.1 h
          cases same
          rw [ih enough ok]
          rfl
        · rw [if_neg fits] at h ⊢
          split_ifs at h with first
          cases h
          rw [if_neg first]
          rfl

/-- A name that ends inside a text is the same when the text goes on. -/
lemma scanName_append {cs rest : List Char} {name : String} {escaped : Bool}
    (h : scanName cs = some (name, escaped, rest)) (known : rest ≠ []) (more : List Char) :
    scanName (cs ++ more) = some (name, escaped, rest ++ more) := by
  unfold scanName at h ⊢
  obtain ⟨⟨name', escaped', rest'⟩, ok, same⟩ := Option.map_eq_some_iff.1 h
  cases same
  rw [scanNameChars_append more (by simp) ok known]
  rfl

/-! ### Templates and regular expressions -/

/-- An escape remains one when the text goes on. -/
lemma scanEscape_isSome_append {cs : List Char} (h : (scanEscape cs).isSome) (more : List Char) :
    (scanEscape (cs ++ more)).isSome := by
  cases cs with
  | nil => cases h
  | cons c cs =>
    rw [List.cons_append]
    by_cases letter : c ∈ escapeLetters
    · simp only [escapeLetters, List.mem_cons, List.not_mem_nil, or_false] at letter
      obtain rfl | rfl | rfl | rfl | rfl | rfl | rfl | rfl := letter
      case inr.inr.inr.inr.inr.inr.inl =>
        match cs with
        | [] => cases h
        | [a] => cases h
        | a :: b :: cs =>
          simp only [scanEscape, List.cons_append] at h ⊢
          split_ifs at h ⊢ <;> trivial
      case inr.inr.inr.inr.inr.inr.inr =>
        simp only [scanEscape, Option.isSome_map] at h ⊢
        obtain ⟨⟨n, rest⟩, read⟩ := Option.isSome_iff_exists.1 h
        rw [scanCodePoint_append read]
        rfl
      all_goals rfl
    · by_cases crlf : c = '\r' ∧ (cs ++ more).head? = some '\n'
      · obtain ⟨rfl, head⟩ := crlf
        obtain ⟨tail, same⟩ := List.head?_eq_some_iff.1 head
        rw [same]
        rfl
      · rw [scanEscape_other letter fun break' feed => crlf ⟨break', feed⟩]
        split_ifs <;> rfl

/-- A character of a template is the same when the text goes on. -/
lemma scanTemplateChar_isLocal : IsLocal scanTemplateChar := by
  intro more cs c rest h known
  unfold scanTemplateChar at h
  split at h
  · cases h
    rfl
  · rename_i feed
    cases h
    obtain ⟨d, rest, rfl⟩ := List.exists_cons_of_ne_nil known
    rw [List.cons_append, List.cons_append, scanTemplateChar]
    intro tail same
    exact feed rest (by rw [(List.cons.inj same).1])
  · rename_i crlf cr
    cases h
    rw [List.cons_append, scanTemplateChar]
    · exact fun _ same _ => cr same
    · exact cr
  · cases h

/-- A character of a template that is the whole text leaves nothing. -/
lemma scanTemplateChar_singleton {c d : Char} {rest : List Char}
    (h : scanTemplateChar [c] = some (d, rest)) : rest = [] := by
  unfold scanTemplateChar at h
  split at h <;> simp_all

/-- A valid escape of a template remains valid when the text goes on. -/
lemma isTemplateEscape_append {c d : Char} {cs : List Char}
    (h : isTemplateEscape (c :: d :: cs) = true) (more : List Char) :
    isTemplateEscape (c :: d :: cs ++ more) = true := by
  simp only [isTemplateEscape, List.cons_append] at h ⊢
  split_ifs at h ⊢
  · exact h
  · exact scanEscape_isSome_append h more

/-- Without a backslash a unit of a template is its character. -/
lemma scanTemplateUnit_plain {c : Char} {cs : List Char} (plain : c ≠ '\\') :
    scanTemplateUnit (c :: cs) =
      (scanTemplateChar (c :: cs)).map fun (c, rest) => (([c], true), rest) := by
  rw [scanTemplateUnit]
  rintro _ same
  exact plain (List.cons.inj same).1

/-- A valid unit of a template is the same when the text goes on. -/
lemma scanTemplateUnit_append {cs unit rest : List Char}
    (h : scanTemplateUnit cs = some ((unit, true), rest)) (known : rest ≠ []) (more : List Char) :
    scanTemplateUnit (cs ++ more) = some ((unit, true), rest ++ more) := by
  cases cs with
  | nil => cases h
  | cons c cs =>
    rw [List.cons_append]
    by_cases escape : c = '\\'
    · subst escape
      simp only [scanTemplateUnit] at h ⊢
      obtain ⟨⟨c, rest'⟩, read, same⟩ := Option.map_eq_some_iff.1 h
      obtain ⟨unit', rfl⟩ := Prod.mk.inj same
      obtain ⟨rfl, valid⟩ := Prod.mk.inj unit'
      rw [scanTemplateChar_isLocal more cs read known]
      match cs with
      | [] => cases read
      | [d] => exact absurd (scanTemplateChar_singleton read) known
      | d :: e :: cs =>
        rw [Option.map_some, isTemplateEscape_append valid]
    · rw [scanTemplateUnit_plain escape] at h ⊢
      obtain ⟨⟨c, rest'⟩, read, same⟩ := Option.map_eq_some_iff.1 h
      cases same
      rw [← List.cons_append, scanTemplateChar_isLocal more _ read known]
      rfl

/-- A unit of a template that is the whole text leaves nothing. -/
lemma scanTemplateUnit_singleton {c : Char} {unit rest : List Char} {valid : Bool}
    (h : scanTemplateUnit [c] = some ((unit, valid), rest)) : rest = [] := by
  by_cases escape : c = '\\'
  · subst escape
    cases h
  · rw [scanTemplateUnit_plain escape] at h
    obtain ⟨⟨d, rest'⟩, read, same⟩ := Option.map_eq_some_iff.1 h
    cases same
    exact scanTemplateChar_singleton read

/-- A template does not end with the text. -/
lemma scanTemplateChars_nil (fuel : List Char) : scanTemplateChars fuel [] = none := by
  cases fuel <;> rfl

/-- A template goes on with a unit where it neither ends nor has a substitution. -/
lemma scanTemplateChars_unit {x : Char} {fuel cs : List Char} (close : cs.head? ≠ some '\x60')
    (substitution : ¬['$', '\x7b'] <+: cs) :
    scanTemplateChars (x :: fuel) cs =
      match scanTemplateUnit cs with
      | some ((unit, valid), rest) =>
        (scanTemplateChars fuel rest).map fun (cs, ok, last, rest) =>
          (unit ++ cs, valid && ok, last, rest)
      | none => none := by
  have noClose : ∀ rest, cs = '\x60' :: rest → False := by
    rintro rest rfl
    exact close rfl
  have noSubstitution : ∀ rest, cs = '$' :: '\x7b' :: rest → False := by
    rintro rest rfl
    exact substitution ⟨rest, rfl⟩
  exact scanTemplateChars.eq_3 cs x fuel noClose noSubstitution

/-- The characters of a template up to where it stops are the same when the text goes on. -/
lemma scanTemplateChars_append (more : List Char) {fuel fuel' : List Char}
    (enough : fuel.length ≤ fuel'.length) {cs chunk rest : List Char} {isLast : Bool}
    (h : scanTemplateChars fuel cs = some (chunk, true, isLast, rest)) :
    scanTemplateChars fuel' (cs ++ more) = some (chunk, true, isLast, rest ++ more) := by
  induction fuel generalizing cs chunk fuel' with
  | nil => cases h
  | cons x fuel ih =>
    obtain ⟨y, fuel', rfl⟩ := List.exists_cons_of_length_pos (show 0 < fuel'.length by
      rw [List.length_cons] at enough
      omega)
    have enough : fuel.length ≤ fuel'.length := Nat.le_of_succ_le_succ enough
    by_cases close : cs.head? = some '\x60'
    · obtain ⟨cs, rfl⟩ := List.head?_eq_some_iff.1 close
      cases h
      rfl
    by_cases substitution : ['$', '\x7b'] <+: cs
    · obtain ⟨cs, rfl⟩ := substitution
      cases h
      rfl
    rw [scanTemplateChars_unit close substitution] at h
    split at h
    · rename_i unit valid tail read
      obtain ⟨⟨chunk', valid', isLast', rest'⟩, ok, same⟩ := Option.map_eq_some_iff.1 h
      obtain ⟨rfl, flags⟩ := Prod.mk.inj same
      obtain ⟨bothValid, ends⟩ := Prod.mk.inj flags
      cases ends
      obtain ⟨rfl, rfl⟩ := Bool.and_eq_true_iff.1 bothValid
      have known : tail ≠ [] := by
        rintro rfl
        rw [scanTemplateChars_nil] at ok
        cases ok
      have close' : (cs ++ more).head? ≠ some '\x60' := by
        cases cs with
        | nil => cases read
        | cons c cs => exact close
      have substitution' : ¬['$', '\x7b'] <+: cs ++ more := by
        match cs with
        | [] => cases read
        | [c] => exact absurd (scanTemplateUnit_singleton read) known
        | c :: d :: cs => simpa using substitution
      rw [scanTemplateChars_unit close' substitution', scanTemplateUnit_append read known]
      dsimp only
      rw [ih enough ok]
      rfl
    · cases h

/-- A chunk of a template without faulty escapes is the same when the text goes on. -/
lemma scanTemplate_append {cs rest : List Char} {chunk : String} {isLast : Bool}
    (h : scanTemplate cs = some ((chunk, true, isLast), rest)) (more : List Char) :
    scanTemplate (cs ++ more) = some ((chunk, true, isLast), rest ++ more) := by
  unfold scanTemplate at h ⊢
  obtain ⟨⟨chunk', valid', isLast', rest'⟩, ok, same⟩ := Option.map_eq_some_iff.1 h
  cases same
  rw [scanTemplateChars_append more (by simp) ok]
  rfl

/-- The body of a regular expression ends with its slash, whatever follows. -/
lemma scanRegexBody_append {inClass : Bool} {cs body rest : List Char}
    (h : scanRegexBody inClass cs = some (body, rest)) (more : List Char) :
    scanRegexBody inClass (cs ++ more) = some (body, rest ++ more) := by
  fun_induction scanRegexBody inClass cs generalizing body with
  | case1 => cases h
  | case2 inClass c cs line ih =>
    obtain ⟨⟨body', rest'⟩, ok, same⟩ := Option.map_eq_some_iff.1 h
    cases same
    simp only [List.cons_append, scanRegexBody, if_neg line, ih ok]
    rfl
  | case3 cs ih =>
    obtain ⟨⟨body', rest'⟩, ok, same⟩ := Option.map_eq_some_iff.1 h
    cases same
    simp only [List.cons_append, scanRegexBody, if_true, ih ok]
    rfl
  | case4 inClass cs outside =>
    cases h
    simp only [List.cons_append, scanRegexBody, if_neg outside]
  | case5 => cases h
  | case6 inClass c cs escape slash line inner =>
    rename_i ih
    obtain ⟨⟨body', rest'⟩, ok, same⟩ := Option.map_eq_some_iff.1 h
    cases same
    cases cs with
    | nil => cases ok
    | cons d cs =>
      rw [List.cons_append, scanRegexBody, if_neg line]
      · dsimp only
        rw [ih ok]
        rfl
      · exact fun _ _ same _ => escape d cs same rfl
      · exact slash
  | case7 => cases h

/-- A regular expression with its flags is the same when the text goes on. -/
lemma scanRegex_isLocal : IsLocal scanRegex := by
  intro more cs atom rest h known
  unfold scanRegex at h ⊢
  split at h
  · cases h
  · rename_i body tail read
    dsimp only at h
    split_ifs at h with fits
    cases h
    rw [scanRegexBody_append read more]
    dsimp only
    rw [takeWhile_append_of_stops known, dropWhile_append_of_stops known, if_pos fits]

/-! ### Markup -/

/-- A name in markup that stops is the same when the text goes on. -/
lemma scanMarkupWord_isLocal : IsLocal scanMarkupWord := by
  intro more cs word rest h known
  unfold scanMarkupWord at h ⊢
  dsimp only at h ⊢
  split_ifs at h with fits
  cases h
  rw [takeWhile_append_of_stops known, dropWhile_append_of_stops known, if_pos fits]

/-- A quoted value in markup ends with its quote, whatever follows. -/
lemma scanQuotedValue_isLocal : IsLocal scanQuotedValue := by
  intro more cs value rest h known
  unfold scanQuotedValue at h
  split at h
  · cases h
  · rename_i quote cs
    split_ifs at h with quoted
    split at h
    · rename_i last tail stop
      cases h
      have stops : cs.dropWhile (· ≠ quote) ≠ [] := by
        rw [stop]
        exact List.cons_ne_nil _ _
      simp only [List.cons_append, scanQuotedValue, if_pos quoted, takeWhile_append_of_stops stops,
        dropWhile_append_of_stops stops, stop]
    · cases h

/-- A text in markup that stops is the same when the text goes on. -/
lemma scanMarkupText_append {cs : List Char} (known : (scanMarkupText cs).2 ≠ [])
    (more : List Char) :
    scanMarkupText (cs ++ more) = ((scanMarkupText cs).1, (scanMarkupText cs).2 ++ more) := by
  unfold scanMarkupText at known ⊢
  dsimp only at known ⊢
  rw [takeWhile_append_of_stops known, dropWhile_append_of_stops known]

/-! ### Punctuators -/

/-- A prefix that fits into a text is dropped from every text that goes on. -/
lemma dropPrefix?_append {p cs : List Char} (long : p.length ≤ cs.length) (more : List Char) :
    dropPrefix? p (cs ++ more) = (dropPrefix? p cs).map (· ++ more) := by
  induction p generalizing cs with
  | nil => simp [dropPrefix?]
  | cons x p ih =>
    cases cs with
    | nil => simp at long
    | cons c cs =>
      simp only [dropPrefix?, List.cons_append]
      split_ifs with same
      · exact ih (Nat.le_of_succ_le_succ long)
      · rfl

/-- A prefix and what it leaves have the length of the text. -/
lemma length_dropPrefix? {p cs rest : List Char} (h : dropPrefix? p cs = some rest) :
    cs.length = p.length + rest.length := by
  induction p generalizing cs with
  | nil => simp_all [dropPrefix?]
  | cons x p ih =>
    cases cs with
    | nil => cases h
    | cons c cs =>
      simp only [dropPrefix?] at h
      split_ifs at h
      simp only [List.length_cons, ih h]
      omega

/-- A punctuator is told from the longer ones by the characters after it. -/
lemma scanPunctuator_append {cs : List Char} {ps : List String}
    (long : ∀ p ∈ ps, p.length < cs.length) (more : List Char) :
    scanPunctuator (cs ++ more) ps =
      (scanPunctuator cs ps).map fun (token, rest) => (token, rest ++ more) := by
  induction ps with
  | nil => rfl
  | cons p ps ih =>
    have ih := ih fun q mem => long q (List.mem_cons_of_mem _ mem)
    have longer : p.toList.length < cs.length := long p List.mem_cons_self
    simp only [scanPunctuator, dropPrefix?_append longer.le]
    cases found : dropPrefix? p.toList cs with
    | none => exact ih
    | some rest =>
      have whole := length_dropPrefix? found
      obtain ⟨c, rest, rfl⟩ := List.exists_cons_of_length_pos (show 0 < rest.length by omega)
      have next : (c :: rest ++ more).head? = (c :: rest).head? := rfl
      dsimp only [Option.map_some]
      rw [next]
      by_cases chain : (p == "?." && (c :: rest).head?.any Char.isDigit) = true
      · rw [if_pos chain, if_pos chain]
        exact ih
      · rw [if_neg chain, if_neg chain]
        rfl

/-! ### Tokens -/

/-- What cannot be read of a template. -/
def Token.isFaulty : Token → Bool
  | .bad | .template _ false _ => true
  | _ => false

/-- A token that leaves a part of a text is the same when the text goes on. -/
lemma Token.scan?_append {cs rest : List Char} {token : Token}
    (h : Token.scan? cs = some (token, rest)) (good : token.isFaulty = false)
    (long : 4 ≤ cs.length) (known : rest ≠ []) (more : List Char) :
    Token.scan? (cs ++ more) = some (token, rest ++ more) := by
  unfold Token.scan? at h
  split at h
  · cases h
    exact absurd rfl known
  · cases h
  · exact (scanString_isLocal '"' more _).map Token.string h known
  · exact (scanString_isLocal '\'' more _).map Token.string h known
  · rename_i cs
    obtain ⟨⟨⟨chunk, valid, isLast⟩, rest'⟩, read, same⟩ := Option.map_eq_some_iff.1 h
    cases same
    cases valid with
    | false => cases good
    | true =>
      rw [List.cons_append, Token.scan?, scanTemplate_append read]
      rfl
  · rename_i cs
    obtain ⟨⟨name, escaped, rest'⟩, read, same⟩ := Option.map_eq_some_iff.1 h
    cases same
    rw [List.cons_append, Token.scan?, scanName_append read known]
    rfl
  · rename_i c cs comment double single backquote hash
    obtain ⟨d, cs, rfl⟩ := List.exists_cons_of_length_pos (show 0 < cs.length by
      rw [List.length_cons] at long
      omega)
    rw [List.cons_append, Token.scan?]
    · have next : (d :: cs ++ more).head? = (d :: cs).head? := rfl
      rw [next, ← List.cons_append]
      split_ifs at h ⊢ with name number
      · obtain ⟨⟨name, escaped, rest'⟩, read, same⟩ := Option.map_eq_some_iff.1 h
        cases same
        rw [scanName_append read known]
        rfl
      · exact scanNumber_isLocal more _ h known
      · have longer : ∀ p ∈ punctuators, p.length < (c :: d :: cs).length := by
          have short : ∀ p ∈ punctuators, p.length ≤ 3 := by decide
          exact fun p mem => lt_of_le_of_lt (short p mem) long
        rw [scanPunctuator_append longer, h]
        rfl
    · rintro tail rfl same
      exact comment cs rfl (by rw [(List.cons.inj same).1])
    · exact double
    · exact single
    · exact backquote
    · exact hash

/-- The token of a text that goes on is its token, if there are enough characters. -/
lemma Token.scan_append {cs : List Char} (good : (Token.scan cs).1.isFaulty = false)
    (long : 4 ≤ cs.length) (known : (Token.scan cs).2 ≠ []) (more : List Char) :
    Token.scan (cs ++ more) = ((Token.scan cs).1, (Token.scan cs).2 ++ more) := by
  cases found : Token.scan? cs with
  | none =>
    unfold Token.scan at good
    rw [found] at good
    cases good
  | some r =>
    obtain ⟨token, rest⟩ := r
    unfold Token.scan at good known ⊢
    rw [found] at good known ⊢
    rw [Token.scan?_append found good long known]
    rfl

/-! ### Blanks and comments -/

/-- A comment that ends has its end when the text goes on. -/
lemma blockCommentEnds_append {cs : List Char} (ends : blockCommentEnds cs = true)
    (more : List Char) : blockCommentEnds (cs ++ more) = true := by
  fun_induction blockCommentEnds cs with
  | case1 => rfl
  | case2 c cs close ih =>
    cases cs with
    | nil => cases ends
    | cons d cs =>
      rw [List.cons_append, blockCommentEnds]
      · exact ih ends
      · rintro tail rfl same
        exact close cs rfl (by rw [(List.cons.inj same).1])
  | case3 => cases ends

/-- At the end of a text there is nothing to skip. -/
lemma skipTrivia_nil (mode : TriviaMode) (newline : Bool) :
    skipTrivia mode newline [] = ([], newline) := by
  cases mode <;> rfl

/-- What follows a character that begins no comment, and is not the last one before more text, makes
none of it. -/
lemma append_ne_of_ne {c d : Char} {cs : List Char} (known : c = '/' → cs ≠ [])
    (h : ∀ tail, c = '/' → cs = d :: tail → False) (more : List Char) (tail : List Char)
    (slash : c = '/') : cs ++ more ≠ d :: tail := by
  obtain ⟨e, cs, rfl⟩ := List.exists_cons_of_ne_nil (known slash)
  intro same
  exact h cs slash (by rw [(List.cons.inj same).1])

/-- Blanks and comments are skipped alike when the text goes on, if what is found after them is more
than one character and begins no open comment. -/
lemma skipTrivia_append {mode : TriviaMode} {newline : Bool} {text : List Char}
    (long : 2 ≤ (skipTrivia mode newline text).1.length)
    (closed : ¬['/', '*'] <+: (skipTrivia mode newline text).1) (more : List Char) :
    skipTrivia mode newline (text ++ more) =
      ((skipTrivia mode newline text).1 ++ more, (skipTrivia mode newline text).2) := by
  fun_induction skipTrivia mode newline text with
  | case1 newline cs ih => exact ih long closed
  | case2 newline cs ends ih =>
    simp only [List.cons_append, skipTrivia, if_pos (blockCommentEnds_append ends more)]
    exact ih long closed
  | case3 newline cs opens => exact absurd ⟨cs, rfl⟩ closed
  | case4 newline c cs line block ends ih =>
    have known : c = '/' → cs ≠ [] := by
      rintro rfl
      cases ends
    rw [List.cons_append, skipTrivia, if_pos ends]
    · exact ih long closed
    · exact append_ne_of_ne known line more
    · exact append_ne_of_ne known block more
  | case5 newline c cs line block ends blank ih =>
    have known : c = '/' → cs ≠ [] := by
      rintro rfl
      cases blank
    rw [List.cons_append, skipTrivia, if_neg ends, if_pos blank]
    · exact ih long closed
    · exact append_ne_of_ne known line more
    · exact append_ne_of_ne known block more
  | case6 newline c cs line block ends blank =>
    have known : c = '/' → cs ≠ [] := by
      rintro - rfl
      exact absurd long (by simp)
    rw [List.cons_append, skipTrivia, if_neg ends, if_neg blank]
    · exact append_ne_of_ne known line more
    · exact append_ne_of_ne known block more
  | case7 newline c cs ends ih =>
    simp only [List.cons_append, skipTrivia, if_pos ends]
    exact ih long closed
  | case8 newline c cs ends ih =>
    rw [List.cons_append, skipTrivia, if_neg ends]
    exact ih long closed
  | case9 newline cs ih => exact ih long closed
  | case10 newline c cs close ih =>
    have known : cs ≠ [] := by
      rintro rfl
      rw [skipTrivia_nil] at long
      exact absurd long (by simp)
    rw [List.cons_append, skipTrivia]
    · exact ih long closed
    · rintro tail rfl same
      obtain ⟨d, cs, rfl⟩ := List.exists_cons_of_ne_nil known
      exact close cs rfl (by rw [(List.cons.inj same).1])
  | case11 => exact absurd long (by simp)

end PlaceholderExports.Syntax
