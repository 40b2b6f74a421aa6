import Mathlib
import PlaceholderExports.Text.Utf8

/-!
# Decoding undoes encoding

A text is decoded from its bytes and from no others (`decode_eq_ok_iff`). Both directions go
character by character, by the number of bytes: what stands in front of some bytes is read as a
character if it is a sequence of that character (`decodeStep_eq_char_iff`), and the only sequence of
a character are its bytes (`Sequence.eq_utf8EncodeChar`), so neither longer forms nor surrogates are
read. The bytes of a text are those that the standard library gives it (`toByteArray_encode`), so
just the valid UTF-8 is decoded.
-/

namespace PlaceholderExports.Text

/-! ### Single characters -/

/-- The bytes that are read as a character. The second of three or four bytes is limited by the
first one, so that there is one sequence for each number. -/
inductive Sequence (c : Char) : Bytes → Prop where
  | one {b : UInt8} :
    b.toNat < 0x80 →
    c = Char.ofNat b.toNat →
    Sequence c [b]
  | two {b0 b1 : UInt8} :
    0xC2 ≤ b0.toNat →
    b0.toNat < 0xE0 →
    isContinuation b1 = true →
    c = Char.ofNat (b0.toNat % 0x20 * 0x40 + b1.toNat % 0x40) →
    Sequence c [b0, b1]
  | three {b0 b1 b2 : UInt8} :
    0xE0 ≤ b0.toNat →
    b0.toNat < 0xF0 →
    isSecondByte b0.toNat b1 = true →
    isContinuation b2 = true →
    c = Char.ofNat (b0.toNat % 0x10 * 0x1000 + b1.toNat % 0x40 * 0x40 + b2.toNat % 0x40) →
    Sequence c [b0, b1, b2]
  | four {b0 b1 b2 b3 : UInt8} :
    0xF0 ≤ b0.toNat →
    b0.toNat < 0xF5 →
    isSecondByte b0.toNat b1 = true →
    isContinuation b2 = true →
    isContinuation b3 = true →
    c = Char.ofNat (b0.toNat % 0x08 * 0x40000 + b1.toNat % 0x40 * 0x1000 + b2.toNat % 0x40 * 0x40 +
      b3.toNat % 0x40) →
    Sequence c [b0, b1, b2, b3]

/-- A character is read in front if a sequence of it stands there. -/
lemma exists_sequence_of_decodeStep {b : UInt8} {rest rest' : Bytes} {c : Char} {length : Nat}
    (read : decodeStep b rest = .char c length rest') :
    ∃ bs, Sequence c bs ∧ b :: rest = bs ++ rest' := by
  unfold decodeStep at read
  dsimp only at read
  split_ifs at read with one bad two three
  · cases read
    exact ⟨[b], .one one rfl, rfl⟩
  all_goals rw [Bool.or_eq_true, not_or, decide_eq_true_iff, decide_eq_true_iff] at bad
  · split at read
    · cases read
    · next b1 rest =>
      split_ifs at read with cont
      cases read
      exact ⟨[b, b1], .two (by omega) two cont rfl, rfl⟩
  · split at read
    · cases read
    · next b1 rest =>
      split_ifs at read with second
      split at read
      · cases read
      · next b2 rest =>
        split_ifs at read with cont
        cases read
        rw [Bool.not_eq_true', Bool.not_eq_false] at second cont
        exact ⟨[b, b1, b2], .three (by omega) three second cont rfl, rfl⟩
  · split at read
    · cases read
    · next b1 rest =>
      split_ifs at read with second
      split at read
      · cases read
      · next b2 rest =>
        split_ifs at read with cont
        split at read
        · cases read
        · next b3 rest =>
          split_ifs at read with cont'
          cases read
          rw [Bool.not_eq_true', Bool.not_eq_false] at second cont cont'
          exact ⟨[b, b1, b2, b3], .four (by omega) (by omega) second cont cont' rfl, rfl⟩

/-- A byte that may be the first of several is not refused at once. -/
lemma not_bad {n : Nat} (lower : 0xC2 ≤ n) (upper : n < 0xF5) :
    ¬ (decide (n < 0xC2) || decide (0xF5 ≤ n)) = true := by
  simp only [Bool.or_eq_true, decide_eq_true_eq]
  omega

/-- A sequence in front is read as its character, whatever follows. -/
lemma Sequence.decodeStep_eq {c : Char} {b : UInt8} {bs : Bytes} (sequence : Sequence c (b :: bs))
    (rest : Bytes) : decodeStep b (bs ++ rest) = .char c (bs.length + 1) rest := by
  unfold decodeStep
  dsimp only
  cases sequence with
  | one small char =>
    rw [if_pos small, char]
    rfl
  | two lower upper cont char =>
    have good := not_bad (show 0xC2 ≤ b.toNat by omega) (show b.toNat < 0xF5 by omega)
    rw [if_neg (by omega), if_neg good, if_pos upper, char]
    exact if_pos cont
  | three lower upper second cont char =>
    have good := not_bad (show 0xC2 ≤ b.toNat by omega) (show b.toNat < 0xF5 by omega)
    rw [if_neg (by omega), if_neg good, if_neg (by omega), char]
    simp [second, cont, upper]
  | four lower upper second cont cont' char =>
    have good := not_bad (show 0xC2 ≤ b.toNat by omega) (show b.toNat < 0xF5 by omega)
    rw [if_neg (by omega), if_neg good, if_neg (by omega), char]
    simp [second, cont, cont', Nat.not_lt.2 lower]

/-- The limits of the second of three or four bytes. -/
lemma isSecondByte_iff {n : Nat} {b : UInt8} :
    isSecondByte n b = true ↔ 0x80 ≤ b.toNat ∧ b.toNat < 0xC0 ∧ (n = 0xE0 → 0xA0 ≤ b.toNat) ∧
      (n = 0xED → b.toNat < 0xA0) ∧ (n = 0xF0 → 0x90 ≤ b.toNat) ∧ (n = 0xF4 → b.toNat < 0x90) := by
  unfold isSecondByte secondByteRange
  rw [Bool.and_eq_true, decide_eq_true_iff, decide_eq_true_iff]
  split_ifs <;> dsimp only <;> omega

/-- The bytes that continue a character are those from `0x80` up to `0xBF`. -/
lemma isContinuation_iff {b : UInt8} :
    isContinuation b = true ↔ 0x80 ≤ b.toNat ∧ b.toNat < 0xC0 := by
  unfold isContinuation
  rw [Bool.and_eq_true, decide_eq_true_iff, decide_eq_true_iff]

/-- A small number is the number of its byte. -/
lemma toNat_uint8_ofNat {n : Nat} (small : n < 256) : (UInt8.ofNat n).toNat = n := by
  rw [UInt8.toNat_ofNat']
  exact Nat.mod_eq_of_lt small

/-- What a number has to be for a character. -/
lemma toNat_char (c : Char) :
    c.val.toNat < 0xD800 ∨ 0xDFFF < c.val.toNat ∧ c.val.toNat < 0x110000 := c.valid

/-- The number of a character that is made from a number. -/
lemma toNat_ofNat {n : Nat} (valid : n < 0xD800 ∨ 0xDFFF < n ∧ n < 0x110000) :
    (Char.ofNat n).val.toNat = n :=
  (Char.toNat_ofNat n).trans (if_pos valid)

/-- A byte is the byte of its number. -/
lemma eq_uint8_ofNat {n : Nat} {b : UInt8} (same : b.toNat = n) : b = UInt8.ofNat n := by
  rw [← UInt8.toNat_inj, toNat_uint8_ofNat (same ▸ b.toNat_lt), same]

/-- The bytes of a character are a sequence of it. -/
lemma sequence_utf8EncodeChar (c : Char) : Sequence c (String.utf8EncodeChar c) := by
  have valid := toNat_char c
  have char : Char.ofNat c.val.toNat = c := Char.ofNat_toNat c
  unfold String.utf8EncodeChar
  generalize c.val.toNat = n at valid char ⊢
  subst char
  dsimp only
  have last : (UInt8.ofNat (n % 64 + 128)).toNat = n % 64 + 128 := toNat_uint8_ofNat (by omega)
  have middle : (UInt8.ofNat (n / 64 % 64 + 128)).toNat = n / 64 % 64 + 128 :=
    toNat_uint8_ofNat (by omega)
  split_ifs with one two three
  · have lead : (UInt8.ofNat n).toNat = n := toNat_uint8_ofNat (by omega)
    refine .one ?_ ?_
    · omega
    · rw [lead]
  · have lead : (UInt8.ofNat (n / 64 % 32 + 192)).toNat = n / 64 % 32 + 192 :=
      toNat_uint8_ofNat (by omega)
    refine .two (by omega) (by omega) (isContinuation_iff.2 (by omega)) (congrArg Char.ofNat ?_)
    omega
  · have lead : (UInt8.ofNat (n / 4096 % 16 + 224)).toNat = n / 4096 % 16 + 224 :=
      toNat_uint8_ofNat (by omega)
    refine .three (by omega) (by omega) (isSecondByte_iff.2 (by omega))
      (isContinuation_iff.2 (by omega)) (congrArg Char.ofNat ?_)
    omega
  · have lead : (UInt8.ofNat (n / 262144 % 8 + 240)).toNat = n / 262144 % 8 + 240 :=
      toNat_uint8_ofNat (by omega)
    have second : (UInt8.ofNat (n / 4096 % 64 + 128)).toNat = n / 4096 % 64 + 128 :=
      toNat_uint8_ofNat (by omega)
    refine .four (by omega) (by omega) (isSecondByte_iff.2 (by omega))
      (isContinuation_iff.2 (by omega)) (isContinuation_iff.2 (by omega)) (congrArg Char.ofNat ?_)
    omega

/-- A character has no other sequence. -/
lemma Sequence.eq_utf8EncodeChar {c : Char} {bs : Bytes} (sequence : Sequence c bs) :
    bs = String.utf8EncodeChar c := by
  unfold String.utf8EncodeChar
  dsimp only
  cases sequence with
  | @one b small char =>
    subst char
    rw [toNat_ofNat (by omega), if_pos (by omega), ← eq_uint8_ofNat rfl]
  | @two b0 b1 lower upper cont char =>
    subst char
    rw [isContinuation_iff] at cont
    rw [toNat_ofNat (by omega), if_neg (by omega), if_pos (by omega),
      ← @eq_uint8_ofNat _ b0 (by omega), ← @eq_uint8_ofNat _ b1 (by omega)]
  | @three b0 b1 b2 lower upper second cont char =>
    subst char
    rw [isSecondByte_iff] at second
    rw [isContinuation_iff] at cont
    rw [toNat_ofNat (by omega), if_neg (by omega), if_neg (by omega), if_pos (by omega),
      ← @eq_uint8_ofNat _ b0 (by omega), ← @eq_uint8_ofNat _ b1 (by omega),
      ← @eq_uint8_ofNat _ b2 (by omega)]
  | @four b0 b1 b2 b3 lower upper second cont cont' char =>
    subst char
    rw [isSecondByte_iff] at second
    rw [isContinuation_iff] at cont cont'
    rw [toNat_ofNat (by omega), if_neg (by omega), if_neg (by omega), if_neg (by omega),
      ← @eq_uint8_ofNat _ b0 (by omega), ← @eq_uint8_ofNat _ b1 (by omega),
      ← @eq_uint8_ofNat _ b2 (by omega), ← @eq_uint8_ofNat _ b3 (by omega)]

/-- A character is read in front if and only if its bytes stand there. -/
lemma decodeStep_eq_char_iff {b : UInt8} {rest rest' : Bytes} {c : Char} :
    (∃ length, decodeStep b rest = .char c length rest') ↔
      b :: rest = String.utf8EncodeChar c ++ rest' := by
  constructor
  · rintro ⟨length, read⟩
    obtain ⟨bs, sequence, whole⟩ := exists_sequence_of_decodeStep read
    rw [whole, sequence.eq_utf8EncodeChar]
  · intro whole
    have sequence := sequence_utf8EncodeChar c
    cases bytes : String.utf8EncodeChar c with
    | nil =>
      rw [bytes] at sequence
      cases sequence
    | cons b' bs =>
      rw [bytes] at whole sequence
      obtain ⟨rfl, rfl⟩ := List.cons.inj whole
      exact ⟨_, sequence.decodeStep_eq rest'⟩

/-! ### Texts -/

/-- No bytes are read as no characters. -/
lemma decodeChars_nil_eq_ok {fuel index : Nat} {cs : List Char} :
    decodeChars fuel index [] = .ok cs ↔ [] = cs.flatMap String.utf8EncodeChar := by
  simp only [decodeChars, Except.ok.injEq]
  cases cs with
  | nil => exact iff_of_true rfl rfl
  | cons c cs =>
    refine iff_of_false nofun fun whole => @String.utf8EncodeChar_ne_nil c ?_
    exact (List.append_eq_nil_iff.1 whole.symm).1

/-- The characters that are read in front and after that. -/
lemma decodeChars_cons_eq_ok {fuel index : Nat} {b : UInt8} {rest : Bytes} {cs : List Char} :
    decodeChars (fuel + 1) index (b :: rest) = .ok cs ↔
      ∃ c length rest' cs', decodeStep b rest = .char c length rest' ∧
        decodeChars fuel (index + length) rest' = .ok cs' ∧ cs = c :: cs' := by
  simp only [decodeChars]
  cases decodeStep b rest with
  | char c length rest' =>
    dsimp only
    cases found : decodeChars fuel (index + length) rest' with
    | error e =>
      refine iff_of_false nofun ?_
      rintro ⟨_, _, _, _, ⟨⟩, more, -⟩
      rw [found] at more
      cases more
    | ok cs' =>
      constructor
      · rintro ⟨⟩
        exact ⟨c, length, rest', cs', rfl, found, rfl⟩
      · rintro ⟨_, _, _, _, ⟨⟩, more, rfl⟩
        rw [found] at more
        cases more
        rfl
  | invalid length => exact iff_of_false nofun nofun
  | incomplete => exact iff_of_false nofun nofun

/-- Bytes are read as some characters if they are the bytes of these. -/
lemma decodeChars_eq_ok_iff {fuel index : Nat} {bytes : Bytes} {cs : List Char}
    (enough : bytes.length ≤ fuel) :
    decodeChars fuel index bytes = .ok cs ↔ bytes = cs.flatMap String.utf8EncodeChar := by
  induction fuel generalizing index bytes cs with
  | zero =>
    obtain rfl := List.eq_nil_of_length_eq_zero (Nat.le_zero.1 enough)
    exact decodeChars_nil_eq_ok
  | succ fuel ih =>
    cases bytes with
    | nil => exact decodeChars_nil_eq_ok
    | cons b rest =>
      have shorter : ∀ {c rest'},
          b :: rest = String.utf8EncodeChar c ++ rest' → rest'.length ≤ fuel := by
        intro c rest' whole
        have lengths := congrArg List.length whole
        have some := List.length_pos_iff.2 (@String.utf8EncodeChar_ne_nil c)
        rw [List.length_append] at lengths
        simp only [List.length_cons] at enough lengths
        omega
      rw [decodeChars_cons_eq_ok]
      constructor
      · rintro ⟨c, length, rest', cs', read, more, rfl⟩
        have whole := decodeStep_eq_char_iff.1 ⟨length, read⟩
        rw [whole, List.flatMap_cons, (ih (shorter whole)).1 more]
      · intro whole
        cases cs with
        | nil => cases whole
        | cons c cs =>
          rw [List.flatMap_cons] at whole
          obtain ⟨length, read⟩ := decodeStep_eq_char_iff.2 whole
          exact ⟨c, length, _, cs, read, (ih (shorter whole)).2 rfl, rfl⟩

/-- Bytes are decoded as a text if and only if they are the bytes of the text. -/
theorem decode_eq_ok_iff {bytes : Bytes} {text : String} :
    decode bytes = .ok text ↔ bytes = encode text := by
  unfold decode encode
  rw [← @decodeChars_eq_ok_iff bytes.length 0 bytes _ (le_refl _)]
  cases decodeChars bytes.length 0 bytes with
  | error e => exact iff_of_false nofun nofun
  | ok cs =>
    show Except.ok (String.ofList cs) = Except.ok text ↔ _
    rw [Except.ok.injEq, Except.ok.injEq, ← String.toList_inj, String.toList_ofList]

/-! ### The standard library -/

/-- The bytes of a text are those of the standard library. -/
lemma toByteArray_encode (text : String) : (encode text).toByteArray = text.toUTF8 :=
  String.utf8Encode_toList

/-- The bytes of texts are the valid ones. -/
lemma isValidUTF8_iff {bytes : Bytes} :
    bytes.toByteArray.IsValidUTF8 ↔ ∃ text, bytes = encode text := by
  constructor
  · rintro ⟨cs, whole⟩
    refine ⟨String.ofList cs, List.toByteArray_inj.1 ?_⟩
    rw [whole, toByteArray_encode]
    exact String.toByteArray_ofList.symm
  · rintro ⟨text, rfl⟩
    rw [toByteArray_encode]
    exact text.isValidUTF8

end PlaceholderExports.Text
