import PlaceholderExports.Text.IdentifierRanges

/-!
# Identifier names

Which texts are identifier names: a start character (a letter, `$`, `_`, or `ID_Start`) followed by
part characters (start characters, digits, the two joiners, or `ID_Continue`).

* `isIdentifierName_iff`: an identifier name is a start character and then part characters only.
-/

namespace PlaceholderExports.Text

/-- Whether a code point lies in one of the closed ranges. -/
def inRanges (ranges : List (Nat × Nat)) (n : Nat) : Bool :=
  ranges.any fun (lo, hi) => lo ≤ n && n ≤ hi

/-- Whether a character may start an identifier. -/
def isIdentifierStart (c : Char) : Bool :=
  if c.toNat < 128 then c.isAlpha || c == '$' || c == '_'
  else inRanges identifierStartRanges c.toNat

/-- Whether a character may stand in an identifier after the first place. -/
def isIdentifierPart (c : Char) : Bool :=
  if c.toNat < 128 then c.isAlphanum || c == '$' || c == '_'
  else inRanges identifierStartRanges c.toNat || inRanges identifierExtendRanges c.toNat

/-- Whether the characters form an identifier name. -/
def isIdentifierChars : List Char → Bool
  | [] => false
  | c :: rest => isIdentifierStart c && rest.all isIdentifierPart

/-- Whether a text is an identifier name, keywords included. -/
def isIdentifierName (name : String) : Bool := isIdentifierChars name.toList

/-- A digit may stand in an identifier after the first place. -/
theorem isIdentifierPart_of_isDigit {c : Char} (h : c.isDigit = true) :
    isIdentifierPart c = true := by
  have ascii : c.toNat < 128 := by
    have range := h
    simp only [Char.isDigit, ge_iff_le, Bool.and_eq_true, decide_eq_true_eq,
      UInt32.le_iff_toNat_le] at range
    exact Nat.lt_of_le_of_lt range.2 (by decide)
  unfold isIdentifierPart
  rw [if_pos ascii]
  simp [Char.isAlphanum, h]

/-- An identifier name is a start character and then part characters only. -/
theorem isIdentifierName_iff {name : String} :
    isIdentifierName name = true ↔
      ∃ c rest, name.toList = c :: rest ∧ isIdentifierStart c = true ∧
        ∀ d ∈ rest, isIdentifierPart d = true := by
  unfold isIdentifierName
  cases h : name.toList with
  | nil => simp [isIdentifierChars]
  | cons c rest =>
    simp only [isIdentifierChars, Bool.and_eq_true, List.all_eq_true]
    exact ⟨fun h => ⟨c, rest, rfl, h⟩, by rintro ⟨_, _, e, h⟩; cases e; exact h⟩

end PlaceholderExports.Text
