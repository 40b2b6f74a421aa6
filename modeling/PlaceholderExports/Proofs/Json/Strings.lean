import PlaceholderExports.Proofs.Json.Documents

/-!
# Reading strings

A reader meets the grammar: on a string as it is written, it stops behind the closing quote and
gives the characters of the parts, or a fault if they have none (`stringChars_yields`). The parts
are read one by one; only a leading surrogate has to be read together with the unit after it.
-/

namespace PlaceholderExports.Json

/-! ### Outcomes -/

/-- The outcome of a reader: a value and the text after it, or a fault if there is no value. -/
inductive Yields {α : Type} : Except Fault (α × List Char) → Option α → List Char → Prop where
  | ok {a rest} :
    Yields (.ok (a, rest)) (some a) rest
  | error {fault rest} :
    Yields (.error fault) none rest

section Yields

variable {α β : Type} {a? : Option α} {rest rest' : List Char}

/-- Two steps yield what the second one yields after the first. -/
lemma Yields.bind {x : Except Fault (α × List Char)}
    {f : α × List Char → Except Fault (β × List Char)}
    {g : α → Option β} (first : Yields x a? rest)
    (second : ∀ a, a? = some a → Yields (f (a, rest)) (g a) rest') :
    Yields (x >>= f) (a?.bind g) rest' := by
  cases first with
  | ok => exact second _ rfl
  | error => exact .error

/-- What a reader yields can be turned into something else. -/
lemma Yields.map {x : Except Fault (α × List Char)} (f : α → β) (h : Yields x a? rest) :
    Yields (x.map fun (a, rest) => (f a, rest)) (a?.map f) rest := by
  cases h with
  | ok => exact .ok
  | error => exact .error

end Yields

/-! ### Escapes -/

/-- A hexadecimal digit is read as its value. -/
lemma hexValue?_eq {n : Nat} {c : Char} (digit : IsHexDigit n c) : hexValue? c = some n := by
  have lower : ∀ i < 16, "0123456789abcdef".toList[i]?.bind hexValue? = some i := by decide
  have upper : ∀ i < 16, "0123456789ABCDEF".toList[i]?.bind hexValue? = some i := by decide
  obtain found | found := digit
  · have value := lower n (List.getElem?_eq_some_iff.1 found).1
    rw [found] at value
    exact value
  · have value := upper n (List.getElem?_eq_some_iff.1 found).1
    rw [found] at value
    exact value

/-- Four hexadecimal digits are read as their number. -/
lemma hexEscape_eq {i j k l : Nat} {a b c d : Char} (first : IsHexDigit i a)
    (second : IsHexDigit j b) (third : IsHexDigit k c) (fourth : IsHexDigit l d)
    (rest : List Char) :
    hexEscape (a :: b :: c :: d :: rest) = .ok (((i * 16 + j) * 16 + k) * 16 + l, rest) := by
  have digits : [a, b, c, d].mapM hexValue? = some [i, j, k, l] := by
    simp [hexValue?_eq first, hexValue?_eq second, hexValue?_eq third, hexValue?_eq fourth]
  unfold hexEscape
  simp only [List.take, digits]
  rfl

/-- The character of a short escape. -/
lemma escape_short {letter c : Char} (known : (letter, c) ∈ shortEscapes) (rest : List Char) :
    escape (letter :: rest) = .ok (c, rest) := by
  have each : ∀ e ∈ shortEscapes, escape (e.1 :: rest) = .ok (e.2, rest) := by
    intro e mem
    simp only [shortEscapes, List.mem_cons, List.not_mem_nil, or_false] at mem
    rcases mem with rfl | rfl | rfl | rfl | rfl | rfl | rfl | rfl
    all_goals rfl
  exact each _ known

variable {f : Char} {fuel text rest : List Char} {c : Char}

/-- An escape is read as its character. -/
lemma stringChars_escape (escaped : escape text = .ok (c, rest)) :
    stringChars (f :: fuel) ('\\' :: text) =
      (stringChars fuel rest).map fun (cs, rest) => (c :: cs, rest) := by
  rw [stringChars]
  rw [escaped]
  show (stringChars fuel rest >>= _) = _
  cases stringChars fuel rest with
  | error fault => rfl
  | ok r => rfl

/-- A string with a wrong escape is refused. -/
lemma stringChars_escape_error {fault : Fault} (refused : escape text = .error fault) :
    stringChars (f :: fuel) ('\\' :: text) = .error fault := by
  rw [stringChars, refused]
  rfl

/-- A character that needs no escape is read as itself. -/
lemma stringChars_plain (notQuote : c ≠ '"') (notEscape : c ≠ '\\') (shown : 0x20 ≤ c.toNat) :
    stringChars (f :: fuel) (c :: rest) =
      (stringChars fuel rest).map fun (cs, rest) => (c :: cs, rest) := by
  rw [stringChars, if_neg (Nat.not_lt.2 shown)]
  · show (stringChars fuel rest >>= _) = _
    cases stringChars fuel rest with
    | error fault => rfl
    | ok r => rfl
  · exact notQuote
  · exact notEscape

/-- A character is read as it is written, whichever way that is. -/
lemma stringChars_char {s : List Char} (written : Part.Written (.char c) s) :
    stringChars (f :: fuel) (s ++ rest) =
      (stringChars fuel rest).map fun (cs, rest) => (c :: cs, rest) := by
  cases written with
  | plain notQuote notEscape shown => exact stringChars_plain notQuote notEscape shown
  | short known => exact stringChars_escape (escape_short known rest)

/-! ### Units -/

section Units

variable {n m : Nat} {s u : List Char}

/-- The text of a unit is read as its number, after the first two characters. -/
lemma hexEscape_unit (written : Part.Written (.unit n) s) :
    ∃ digits, s = '\\' :: 'u' :: digits ∧ ∀ rest, hexEscape (digits ++ rest) = .ok (n, rest) := by
  cases written with
  | number first second third fourth =>
    exact ⟨_, rfl, hexEscape_eq first second third fourth⟩

/-- A unit that is no surrogate is a character. -/
lemma escape_unit {digits : List Char} (read : hexEscape digits = .ok (n, rest))
    (notLeading : ¬ IsLeading n) (notTrailing : ¬ IsTrailing n) :
    escape ('u' :: digits) = .ok (Char.ofNat n, rest) := by
  show unicodeEscape digits = _
  have whole : (decide (n < 0xD800) || decide (0xDFFF < n)) = true := by
    unfold IsLeading at notLeading
    unfold IsTrailing at notTrailing
    rw [Bool.or_eq_true, decide_eq_true_eq, decide_eq_true_eq]
    omega
  unfold unicodeEscape
  rw [read]
  show (if (decide (n < 0xD800) || decide (0xDFFF < n)) = true then _ else _) = _
  rw [if_pos whole]
  rfl

/-- A unit that is a surrogate is looked at more closely. -/
lemma unicodeEscape_surrogate {digits : List Char} (read : hexEscape digits = .ok (n, rest))
    (low : 0xD800 ≤ n) (high : n < 0xE000) :
    unicodeEscape digits = (do
      if 0xDC00 ≤ n then throw .loneSurrogate
      match rest with
      | [] => throw .endInString
      | '\\' :: [] => throw .endInString
      | '\\' :: 'u' :: rest =>
        let (m, rest) ← hexEscape rest
        if m < 0xDC00 || 0xDFFF < m then throw .loneSurrogate
        return (paired n m, rest)
      | _ => throw .endInSurrogate) := by
  have whole : (decide (n < 0xD800) || decide (0xDFFF < n)) = false := by
    rw [Bool.or_eq_false_iff, decide_eq_false_iff_not, decide_eq_false_iff_not]
    omega
  unfold unicodeEscape
  rw [read]
  show (if (decide (n < 0xD800) || decide (0xDFFF < n)) = true then _ else _) = _
  rw [whole, if_neg (by decide)]
  rfl

/-- A trailing surrogate cannot come first. -/
lemma escape_trailing {digits : List Char} (read : hexEscape digits = .ok (n, rest))
    (trailing : IsTrailing n) : escape ('u' :: digits) = .error .loneSurrogate := by
  show unicodeEscape digits = _
  rw [unicodeEscape_surrogate read (by have := trailing.1; omega) trailing.2, if_pos trailing.1]
  rfl

/-- A leading surrogate takes the unit after it. -/
lemma escape_pair {digits more : List Char} (read : hexEscape digits = .ok (n, '\\' :: 'u' :: more))
    (leading : IsLeading n) (again : hexEscape more = .ok (m, rest)) :
    escape ('u' :: digits) =
      if IsTrailing m then .ok (paired n m, rest) else .error .loneSurrogate := by
  show unicodeEscape digits = _
  rw [unicodeEscape_surrogate read leading.1 (by have := leading.2; omega),
    if_neg (Nat.not_le.2 leading.2)]
  show (hexEscape more >>= _) = _
  rw [again]
  show (if (decide (m < 0xDC00) || decide (0xDFFF < m)) = true then _ else _) = _
  by_cases trailing : IsTrailing m
  · have inside : (decide (m < 0xDC00) || decide (0xDFFF < m)) = false := by
      unfold IsTrailing at trailing
      rw [Bool.or_eq_false_iff, decide_eq_false_iff_not, decide_eq_false_iff_not]
      omega
    rw [inside, if_pos trailing]
    rfl
  · have outside : (decide (m < 0xDC00) || decide (0xDFFF < m)) = true := by
      unfold IsTrailing at trailing
      rw [Bool.or_eq_true, decide_eq_true_eq, decide_eq_true_eq]
      omega
    rw [outside, if_neg trailing]
    rfl

/-- A leading surrogate cannot stand before anything but a unit. -/
lemma escape_leading {digits : List Char} (read : hexEscape digits = .ok (n, rest))
    (leading : IsLeading n) (noUnit : ∀ more, rest ≠ '\\' :: 'u' :: more) :
    ∃ fault, escape ('u' :: digits) = .error fault := by
  show ∃ fault, unicodeEscape digits = _
  rw [unicodeEscape_surrogate read leading.1 (by have := leading.2; omega),
    if_neg (Nat.not_le.2 leading.2)]
  dsimp only
  split
  · exact ⟨_, rfl⟩
  · exact ⟨_, rfl⟩
  · next more => exact absurd rfl (noUnit more)
  · exact ⟨_, rfl⟩

end Units

/-! ### Whole strings -/

/-- The beginning of a part tells a unit from a character. -/
lemma ne_unit_of_written_char {s : List Char} (written : Part.Written (.char c) s) :
    ∀ more, s ++ rest ≠ '\\' :: 'u' :: more := by
  cases written with
  | plain _ notEscape _ => exact fun _ same => notEscape (List.cons.inj same).1
  | short known =>
    intro more same
    obtain rfl := (List.cons.inj (List.cons.inj same).2).1
    have none : ∀ e ∈ shortEscapes, e.1 ≠ 'u' := by decide
    exact none _ known rfl

/-- The first part of a string, and a character of the copy that is spent on it. -/
lemma exists_of_areWritten_cons {part : Part} {parts : List Part} {t : List Char}
    (written : Part.AreWritten (part :: parts) t) (enough : t.length ≤ fuel.length) :
    ∃ s u f fuel', t = s ++ u ∧ part.Written s ∧ Part.AreWritten parts u ∧ fuel = f :: fuel' ∧
      u.length ≤ fuel'.length := by
  obtain ⟨⟩ | ⟨first, more⟩ := written
  next s u =>
    have some : 0 < s.length := by
      cases first with
      | plain => exact Nat.zero_lt_one
      | short => exact Nat.zero_lt_two
      | number => exact Nat.zero_lt_succ 5
    rw [List.length_append] at enough
    obtain _ | ⟨f, fuel'⟩ := fuel
    · rw [List.length_nil] at enough
      omega
    · rw [List.length_cons] at enough
      exact ⟨s, u, f, fuel', rfl, first, more, rfl, by omega⟩

/-- The same if the first part is a unit, with the digits that are read as its number. -/
lemma exists_of_areWritten_unit {n : Nat} {parts : List Part} {t : List Char}
    (written : Part.AreWritten (.unit n :: parts) t) (enough : t.length ≤ fuel.length) :
    ∃ digits u f fuel', t = '\\' :: 'u' :: (digits ++ u) ∧ Part.AreWritten parts u ∧
      fuel = f :: fuel' ∧ u.length ≤ fuel'.length ∧
      ∀ rest, hexEscape (digits ++ rest) = .ok (n, rest) := by
  obtain ⟨s, u, f, fuel', rfl, first, more, same, left⟩ := exists_of_areWritten_cons written enough
  obtain ⟨digits, rfl, read⟩ := hexEscape_unit first
  exact ⟨digits, u, f, fuel', rfl, more, same, left, read⟩

/-- A string is read up to its closing quote. It has a value if its parts make characters. -/
lemma stringChars_yields {parts : List Part} {t : List Char} (written : Part.AreWritten parts t)
    (enough : t.length ≤ fuel.length) (rest : List Char) :
    Yields (stringChars fuel (t ++ '"' :: rest)) (Part.chars? parts) rest := by
  induction parts using Part.chars?.induct generalizing t fuel with
  | case1 =>
    cases written
    rw [List.nil_append, stringChars, Part.chars?]
    exact .ok
  | case2 c parts ih =>
    obtain ⟨s, u, f, fuel, rfl, first, more, rfl, left⟩ := exists_of_areWritten_cons written enough
    rw [List.append_assoc, stringChars_char first, Part.chars?]
    exact (ih more left).map (c :: ·)
  | case3 n leading m parts trailing ih =>
    obtain ⟨digits, u, f, fuel, rfl, more, rfl, left, read⟩ :=
      exists_of_areWritten_unit written enough
    obtain ⟨digits', u, -, -, rfl, more', -, -, read'⟩ := exists_of_areWritten_unit more left
    have escaped := escape_pair (read ('\\' :: 'u' :: (digits' ++ (u ++ '"' :: rest)))) leading
      (read' _)
    rw [if_pos trailing] at escaped
    rw [Part.chars?_pair leading trailing]
    simp only [List.append_assoc, List.cons_append]
    rw [stringChars_escape escaped]
    have left : u.length ≤ fuel.length := by
      simp only [List.length_cons, List.length_append] at left
      omega
    exact (ih more' left).map (paired n m :: ·)
  | case4 n leading m parts notTrailing =>
    obtain ⟨digits, u, f, fuel, rfl, more, rfl, left, read⟩ :=
      exists_of_areWritten_unit written enough
    obtain ⟨digits', u, -, -, rfl, -, -, -, read'⟩ := exists_of_areWritten_unit more left
    have refused := escape_pair (read ('\\' :: 'u' :: (digits' ++ (u ++ '"' :: rest)))) leading
      (read' _)
    rw [if_neg notTrailing] at refused
    have alone : ∀ m' more, Part.unit m :: parts = .unit m' :: more → ¬ IsTrailing m' := by
      rintro _ _ ⟨⟩
      exact notTrailing
    rw [Part.chars?_leading leading alone]
    simp only [List.append_assoc, List.cons_append]
    rw [stringChars_escape_error refused]
    exact .error
  | case5 n parts leading noUnit =>
    obtain ⟨digits, u, f, fuel, rfl, more, rfl, -, read⟩ := exists_of_areWritten_unit written enough
    -- what comes next is the closing quote, or a character as it is written
    have alone : ∀ more', u ++ '"' :: rest ≠ '\\' :: 'u' :: more' := by
      cases more with
      | nil =>
        intro more' same
        cases same
      | @cons part parts s u next =>
        cases part with
        | char c =>
          rw [List.append_assoc]
          exact ne_unit_of_written_char next
        | unit m => exact absurd rfl (noUnit m parts)
    obtain ⟨fault, refused⟩ := escape_leading (read (u ++ '"' :: rest)) leading alone
    rw [Part.chars?_leading leading fun m more same => absurd same (noUnit m more)]
    simp only [List.append_assoc, List.cons_append]
    rw [stringChars_escape_error refused]
    exact .error
  | case6 n parts notLeading trailing =>
    obtain ⟨digits, u, f, fuel, rfl, more, rfl, -, read⟩ := exists_of_areWritten_unit written enough
    have refused := escape_trailing (read (u ++ '"' :: rest)) trailing
    rw [Part.chars?_trailing trailing]
    simp only [List.append_assoc, List.cons_append]
    rw [stringChars_escape_error refused]
    exact .error
  | case7 n parts notLeading notTrailing ih =>
    obtain ⟨digits, u, f, fuel, rfl, more, rfl, left, read⟩ :=
      exists_of_areWritten_unit written enough
    have escaped := escape_unit (read (u ++ '"' :: rest)) notLeading notTrailing
    rw [Part.chars?_unit notLeading notTrailing]
    simp only [List.append_assoc, List.cons_append]
    rw [stringChars_escape escaped]
    exact (ih more left).map (Char.ofNat n :: ·)

/-- A literal begins with a quote, and is read after it. -/
lemma stringTail_yields {text? : Option String} {k : List Char} (written : IsLiteral text? k) :
    ∃ t, k = '"' :: t ∧ ∀ rest, Yields (stringTail (t ++ rest)) text? rest := by
  cases written with
  | @mk parts t areWritten =>
    refine ⟨t ++ ['"'], rfl, fun rest => ?_⟩
    rw [List.append_assoc, List.singleton_append]
    refine Yields.map String.ofList (stringChars_yields areWritten ?_ rest)
    rw [List.length_append]
    exact Nat.le_add_right _ _

end PlaceholderExports.Json
