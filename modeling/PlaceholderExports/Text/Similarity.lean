/-!
# Similar words

Two words are the more similar the more characters they have in common at nearby places and in the
same order. The measure lies between zero, for words without a common character, and one, for equal
words.

* `commonChars`: the characters that two words have in common, in the order of each.
* `similarity`: the measure.
-/

namespace PlaceholderExports.Text

/-- Marks the first free place of a character between two places. Places count from a number on. -/
def markChar (c : Char) (first last : Nat) : Nat → List (Char × Bool) → Option (List (Char × Bool))
  | _, [] => none
  | place, (d, taken) :: rest =>
    if first ≤ place ∧ place ≤ last ∧ d = c ∧ !taken then some ((d, true) :: rest)
    else (markChar c first last (place + 1) rest).map ((d, taken) :: ·)

/-- The characters that find a free place in the other word no further away than a distance, and
that word with those places marked. -/
def markChars (distance : Nat) :
    Nat → List Char → List (Char × Bool) → List Char × List (Char × Bool)
  | _, [], word => ([], word)
  | place, c :: rest, word =>
    match markChar c (place - distance) (place + distance) 0 word with
    | some word =>
      let (found, word) := markChars distance (place + 1) rest word
      (c :: found, word)
    | none => markChars distance (place + 1) rest word

/-- The characters that two words have in common at places that differ by less than half the length
of the longer word, in the order of each. -/
def commonChars (a b : List Char) : List Char × List Char :=
  let (found, word) := markChars (max a.length b.length / 2 - 1) 0 a (b.map (·, false))
  (found, (word.filter (·.2)).map (·.1))

/-- The mean of three shares: of the common characters in either word, and of those among them that
stand in the same order. Two common characters in exchanged order count as one that does not. -/
def similarity (a b : List Char) : Rat :=
  let (inA, inB) := commonChars a b
  let common := inA.length
  let exchanged := ((inA.zip inB).filter fun (c, d) => c ≠ d).length / 2
  if common = 0 then 0
  else
    ((common : Rat) / a.length + (common : Rat) / b.length +
      ((common - exchanged : Nat) : Rat) / common) / 3

end PlaceholderExports.Text
