import PlaceholderExports.Proofs.Json.Documents
import PlaceholderExports.Proofs.Reading.Written

/-!
# Writing strings

A text as it is quoted is a literal of it (`isLiteral_quote`). Every character is one part of the
literal: the control characters without a short escape are units, and the others stand for
themselves (`exists_part`).
-/

namespace PlaceholderExports.Json

open PlaceholderExports.Text (hexDigit hexDigits escapeChar escapeChars quote)
open PlaceholderExports.Syntax (escapeChar_of_notMem)

/-- The digit of a number below sixteen has that number for its value. -/
lemma isHexDigit_hexDigit {n : Nat} (small : n < 16) : IsHexDigit n (hexDigit n) := by
  left
  interval_cases n <;> rfl

/-- A number below 2^16 is a unit with its four digits. -/
lemma written_hexDigits {n : Nat} (small : n < 0x10000) :
    Part.Written (.unit n) ('\\' :: 'u' :: hexDigits 4 n) := by
  have digit (m : Nat) := isHexDigit_hexDigit (Nat.mod_lt m (by decide : 0 < 16))
  have written := Part.Written.number (digit (n / 16 / 16 / 16)) (digit (n / 16 / 16))
    (digit (n / 16))
    (digit n)
  have whole :
      ((n / 16 / 16 / 16 % 16 * 16 + n / 16 / 16 % 16) * 16 + n / 16 % 16) * 16 + n % 16 = n := by
    omega
  rw [whole] at written
  exact written

/-- A character as it is escaped is one part. -/
lemma exists_part (c : Char) :
    ∃ part : Part, part.Written (escapeChar c) ∧
      ∀ parts, Part.chars? (part :: parts) = (Part.chars? parts).map (c :: ·) := by
  by_cases short : c ∈ Syntax.shortEscapes
  · refine ⟨.char c, ?_, fun _ => rfl⟩
    simp only [Syntax.shortEscapes, List.mem_cons, List.not_mem_nil, or_false] at short
    rcases short with rfl | rfl | rfl | rfl | rfl | rfl | rfl <;> exact .short (by decide)
  · rw [escapeChar_of_notMem short]
    simp only [Syntax.shortEscapes, List.mem_cons, List.not_mem_nil, or_false, not_or] at short
    split_ifs with control
    · refine ⟨.unit c.toNat, written_hexDigits (by omega), fun parts => ?_⟩
      have notLeading : ¬ IsLeading c.toNat := fun leading => by
        have := leading.1
        omega
      have notTrailing : ¬ IsTrailing c.toNat := fun trailing => by
        have := trailing.1
        omega
      rw [Part.chars?_unit notLeading notTrailing, Char.ofNat_toNat]
    · exact ⟨.char c, .plain short.1 short.2.1 (Nat.not_lt.1 control), fun _ => rfl⟩

/-- The quoted form of a text is a literal of it. -/
lemma isLiteral_quote (text : String) : IsLiteral (some text) (quote text).toList := by
  have parts (cs : List Char) :
      ∃ parts, Part.AreWritten parts (escapeChars cs) ∧ Part.chars? parts = some cs := by
    induction cs with
    | nil => exact ⟨[], .nil, rfl⟩
    | cons c cs ih =>
      obtain ⟨parts, written, chars⟩ := ih
      obtain ⟨part, here, char⟩ := exists_part c
      have split : escapeChars (c :: cs) = escapeChar c ++ escapeChars cs := List.flatMap_cons
      exact ⟨part :: parts, split ▸ .cons here written, by rw [char, chars]; rfl⟩
  obtain ⟨parts, written, chars⟩ := parts text.toList
  have literal := IsLiteral.mk written
  rw [chars, Option.map_some, String.ofList_toList] at literal
  rw [quote, String.toList_ofList]
  exact literal

/-- A key in quotes, a colon with blanks behind it, and a value are a member. -/
lemma isMember_quote (key : String) {v : Value} {t d : List Char} (blank : AreBlanks d)
    (written : v.Written t) :
    IsMember Value.Written (some key, v) ((Text.quote key).toList ++ ':' :: d ++ t) := by
  have member := IsMember.mk (isLiteral_quote key) areBlanks_nil blank written
  rwa [List.append_nil] at member

/-! ### Parts between brackets -/

section Separated

variable {α : Type} {writes : α → List Char → Prop} {xs : List α}

/-- There may be more blanks before and after separated parts. -/
lemma Separated.pad {t b d : List Char} (separated : Separated writes xs t) (before : AreBlanks b)
    (after : AreBlanks d) : Separated writes xs (b ++ t ++ d) := by
  induction separated generalizing b with
  | none blank => exact .none ((before.append blank).append after)
  | @one x b' t d' blank first blank' =>
    have whole : b ++ (b' ++ t ++ d') ++ d = b ++ b' ++ t ++ (d' ++ d) := by
      simp only [List.append_assoc]
    rw [whole]
    exact .one (before.append blank) first (blank'.append after)
  | @more x y xs b' t d' u blank first blank' _ ih =>
    have whole : b ++ (b' ++ t ++ d' ++ ',' :: u) ++ d = b ++ b' ++ t ++ d' ++ ',' :: (u ++ d) := by
      simp only [List.append_assoc, List.cons_append]
    rw [whole]
    exact .more (before.append blank) first blank' (ih areBlanks_nil)

/-- Parts with commas between them, each with blanks of its own, and with blanks behind the
commas. -/
lemma separated_intercalate {items : List String} {gap : String} (blank : AreBlanks gap.toList)
    (written : List.Forall₂ (fun x (item : String) => Separated writes [x] item.toList) xs items) :
    Separated writes xs (("," ++ gap).intercalate items).toList := by
  induction written with
  | nil => exact .none areBlanks_nil
  | @cons x item xs items first more ih =>
    cases more with
    | nil =>
      rw [String.intercalate_singleton]
      exact first
    | @cons y next ys rest second later =>
      have whole : (("," ++ gap).intercalate (item :: next :: rest)).toList =
          item.toList ++ ',' ::
            (gap.toList ++ (("," ++ gap).intercalate (next :: rest)).toList ++ []) := by
        rw [String.intercalate_cons_cons]
        simp
      rw [whole]
      generalize item.toList = t at first
      cases first with
      | one before here after => exact .more before here after (ih.pad blank areBlanks_nil)

/-- Quoted texts with commas between them. -/
lemma separated_quote (texts : List String) :
    Separated Value.Written (texts.map fun text => .string (some text))
      (",".intercalate (texts.map quote)).toList := by
  refine separated_intercalate (show AreBlanks "".toList from areBlanks_nil) ?_
  rw [List.forall₂_map_left_iff, List.forall₂_map_right_iff, List.forall₂_same]
  intro text _
  have literal := Separated.one areBlanks_nil
    (Value.Written.string (isLiteral_quote text)) areBlanks_nil
  rwa [List.append_nil] at literal

end Separated

end PlaceholderExports.Json
