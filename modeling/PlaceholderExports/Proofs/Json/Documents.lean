import Mathlib
import PlaceholderExports.Json.Scan

/-!
# JSON documents

The grammar of JSON texts, said without a reader: which texts write a value. It is that of the
standard, with all the freedom of writing that it gives: blanks between the tokens, and for the
characters of a string the choice between the character itself, a short escape and an escape by
number.

An escape by number is a 16-bit unit, and two of them make one character if they are a leading and a
trailing surrogate. The grammar admits surrogates that do not come in such pairs; a string with one
of them has no text (`Part.chars?`).
-/

namespace PlaceholderExports.Json

/-! ### Blanks -/

/-- Blanks only. -/
def AreBlanks (t : List Char) : Prop := ∀ c ∈ t, c ∈ [' ', '\t', '\n', '\r']

/-- There may be no blank at all. -/
lemma areBlanks_nil : AreBlanks [] := nofun

/-- Blanks after blanks are blanks. -/
lemma AreBlanks.append {b d : List Char} (first : AreBlanks b) (second : AreBlanks d) :
    AreBlanks (b ++ d) :=
  List.forall_mem_append.2 ⟨first, second⟩

/-! ### Strings -/

/-- A part of a string as it is written: a character, or a 16-bit unit. -/
inductive Part where
  | char (c : Char)
  | unit (n : Nat)
deriving DecidableEq, Repr

/-- The characters that have a short escape, each after the letter of the escape. -/
def shortEscapes : List (Char × Char) :=
  [('"', '"'), ('\\', '\\'), ('/', '/'), ('b', '\x08'), ('f', '\x0c'), ('n', '\n'), ('r', '\r'),
   ('t', '\t')]

/-- A hexadecimal digit in lower or upper case. -/
def IsHexDigit (n : Nat) (c : Char) : Prop :=
  "0123456789abcdef".toList[n]? = some c ∨ "0123456789ABCDEF".toList[n]? = some c

/-- How the parts of a string are written. -/
inductive Part.Written : Part → List Char → Prop where
  | plain {c} :
    c ≠ '"' →
    c ≠ '\\' →
    0x20 ≤ c.toNat →
    Written (.char c) [c]
  | short {letter c} :
    (letter, c) ∈ shortEscapes →
    Written (.char c) ['\\', letter]
  | number {i j k l a b c d} :
    IsHexDigit i a →
    IsHexDigit j b →
    IsHexDigit k c →
    IsHexDigit l d →
    Written (.unit (((i * 16 + j) * 16 + k) * 16 + l)) ['\\', 'u', a, b, c, d]

/-- A unit that begins a pair. -/
def IsLeading (n : Nat) : Prop := 0xD800 ≤ n ∧ n < 0xDC00

/-- A unit that ends a pair. -/
def IsTrailing (n : Nat) : Prop := 0xDC00 ≤ n ∧ n < 0xE000

instance (n : Nat) : Decidable (IsLeading n) := inferInstanceAs (Decidable (_ ∧ _))
instance (n : Nat) : Decidable (IsTrailing n) := inferInstanceAs (Decidable (_ ∧ _))

/-- The character of a pair of units. -/
def paired (leading trailing : Nat) : Char :=
  Char.ofNat (0x10000 + (leading - 0xD800) * 0x400 + (trailing - 0xDC00))

/-- The characters of some parts, unless a surrogate is without its other half. -/
def Part.chars? : List Part → Option (List Char)
  | [] => some []
  | .char c :: parts => (chars? parts).map (c :: ·)
  | .unit n :: parts =>
    if IsLeading n then
      match parts with
      | .unit m :: parts => if IsTrailing m then (chars? parts).map (paired n m :: ·) else none
      | _ => none
    else if IsTrailing n then none
    else (chars? parts).map (Char.ofNat n :: ·)

section Units

variable {n m : Nat} {parts : List Part}

/-- A unit that is no surrogate is a character. -/
lemma Part.chars?_unit (notLeading : ¬ IsLeading n) (notTrailing : ¬ IsTrailing n) :
    chars? (.unit n :: parts) = (chars? parts).map (Char.ofNat n :: ·) := by
  rw [chars?.eq_def]
  exact (if_neg notLeading).trans (if_neg notTrailing)

/-- A pair of surrogates is a character. -/
lemma Part.chars?_pair (leading : IsLeading n) (trailing : IsTrailing m) :
    chars? (.unit n :: .unit m :: parts) = (chars? parts).map (paired n m :: ·) := by
  rw [chars?.eq_def]
  exact (if_pos leading).trans (if_pos trailing)

/-- A leading surrogate needs a trailing one after it. -/
lemma Part.chars?_leading (leading : IsLeading n)
    (alone : ∀ m more, parts = .unit m :: more → ¬ IsTrailing m) :
    chars? (.unit n :: parts) = none := by
  rw [chars?.eq_def]
  refine (if_pos leading).trans ?_
  split
  · next m more => exact if_neg (alone m more rfl)
  · rfl

/-- A trailing surrogate cannot come first. -/
lemma Part.chars?_trailing (trailing : IsTrailing n) : chars? (.unit n :: parts) = none := by
  have notLeading : ¬ IsLeading n := fun leading => Nat.not_lt.2 trailing.1 leading.2
  rw [chars?.eq_def]
  exact (if_neg notLeading).trans (if_pos trailing)

end Units

/-- Some parts, written one after the other. -/
inductive Part.AreWritten : List Part → List Char → Prop where
  | nil :
    AreWritten [] []
  | cons {part parts s t} :
    Written part s →
    AreWritten parts t →
    AreWritten (part :: parts) (s ++ t)

/-- A string in quotes, and its text if it has one. -/
inductive IsLiteral : Option String → List Char → Prop where
  | mk {parts t} :
    Part.AreWritten parts t →
    IsLiteral ((Part.chars? parts).map String.ofList) ('"' :: t ++ ['"'])

/-! ### Numbers -/

/-- Digits, and at least one. -/
def AreDigits (t : List Char) : Prop := t ≠ [] ∧ ∀ c ∈ t, c.isDigit = true

/-- The whole part of a number, which begins with a zero only if it is that zero. -/
def IsWhole (t : List Char) : Prop := AreDigits t ∧ (t.head? = some '0' → t = ['0'])

/-- The fraction of a number, if it has one. -/
inductive IsFraction : List Char → Prop where
  | none :
    IsFraction []
  | some {t} :
    AreDigits t →
    IsFraction ('.' :: t)

/-- The exponent of a number, if it has one. -/
inductive IsExponent : List Char → Prop where
  | none :
    IsExponent []
  | some {e sign t} :
    e ∈ ['e', 'E'] →
    sign ∈ [[], ['+'], ['-']] →
    AreDigits t →
    IsExponent (e :: sign ++ t)

/-- A number. -/
inductive IsNumber : List Char → Prop where
  | mk {sign whole fraction exponent} :
    sign ∈ [[], ['-']] →
    IsWhole whole →
    IsFraction fraction →
    IsExponent exponent →
    IsNumber (sign ++ whole ++ fraction ++ exponent)

/-! ### Values -/

/-- Parts between brackets: blanks only, or parts with a comma between any two and blanks around
each. -/
inductive Separated {α : Type} (writes : α → List Char → Prop) : List α → List Char → Prop where
  | none {b} :
    AreBlanks b →
    Separated writes [] b
  | one {x b t d} :
    AreBlanks b →
    writes x t →
    AreBlanks d →
    Separated writes [x] (b ++ t ++ d)
  | more {x y xs b t d u} :
    AreBlanks b →
    writes x t →
    AreBlanks d →
    Separated writes (y :: xs) u →
    Separated writes (x :: y :: xs) (b ++ t ++ d ++ ',' :: u)

/-- The values. A number is not looked at more closely; a string is given by its text. -/
inductive Value where
  | null
  | bool (b : Bool)
  | number
  | string (text? : Option String)
  | list (items : List Value)
  | object (members : List (Option String × Value))

/-- A key and a value with a colon between them. -/
inductive IsMember (writes : Value → List Char → Prop) :
    Option String × Value → List Char → Prop where
  | mk {key v k b d t} :
    IsLiteral key k →
    AreBlanks b →
    AreBlanks d →
    writes v t →
    IsMember writes (key, v) (k ++ b ++ ':' :: d ++ t)

/-- How values are written. -/
inductive Value.Written : Value → List Char → Prop where
  | null :
    Written .null ['n', 'u', 'l', 'l']
  | boolTrue :
    Written (.bool true) ['t', 'r', 'u', 'e']
  | boolFalse :
    Written (.bool false) ['f', 'a', 'l', 's', 'e']
  | number {t} :
    IsNumber t →
    Written .number t
  | string {text? t} :
    IsLiteral text? t →
    Written (.string text?) t
  | list {items t} :
    Separated Written items t →
    Written (.list items) ('[' :: t ++ [']'])
  | object {members t} :
    Separated (IsMember Written) members t →
    Written (.object members) ('\x7b' :: t ++ ['\x7d'])

/-- A text that writes a value. -/
def IsDocument (v : Value) (text : String) : Prop :=
  ∃ b t b', AreBlanks b ∧ v.Written t ∧ AreBlanks b' ∧ text.toList = b ++ t ++ b'

end PlaceholderExports.Json
