/-!
# Patterns for names

A pattern describes names character by character: `?` stands for any character, `*` for any number
of them, and brackets for one character of a class, or outside it if the class starts with `!`.
Between slashes `**` stands for any number of directories. All other characters stand for
themselves.

* `readPattern`: the parts of a pattern text.
* `Part.matches`, `matchesName`: the names that match.
-/

namespace PlaceholderExports.Glob

/-- A member of a class of characters. -/
inductive ClassMember where
  | single (c : Char)
  | range (first last : Char)
deriving DecidableEq, Repr

/-- A part of a pattern. -/
inductive Part where
  | char (c : Char)
  | anyChar
  | anyChars
  | anyDirectories
  | oneOf (members : List ClassMember)
  | noneOf (members : List ClassMember)
deriving DecidableEq, Repr

/-- Why a text is no pattern. -/
inductive PatternError where
  /-- More than two stars in a row. -/
  | tooManyStars
  /-- Two stars with something else before the next slash on either side. -/
  | starsInsideSegment
  /-- A class of characters that does not end. -/
  | openClass
deriving DecidableEq, Repr

/-- The wording of an error. -/
def PatternError.message : PatternError → String
  | tooManyStars =>
    "Pattern syntax error: wildcards are either regular \x60*\x60 or recursive \x60**\x60"
  | starsInsideSegment =>
    "Pattern syntax error: recursive wildcards must form a single path component"
  | openClass => "Pattern syntax error: invalid range pattern"

/-! ### Reading -/

/-- The members of a class. A hyphen between two characters makes a range. -/
def classMembers : List Char → List ClassMember
  | first :: '-' :: last :: rest => .range first last :: classMembers rest
  | c :: rest => .single c :: classMembers rest
  | [] => []

/-- Splits a class from what follows its closing bracket. The first character never closes it. -/
def splitClass : List Char → Except PatternError (List Char × List Char)
  | [] => .error .openClass
  | c :: rest =>
    match rest.dropWhile (· ≠ ']') with
    | [] => .error .openClass
    | _ :: after => .ok (c :: rest.takeWhile (· ≠ ']'), after)

/-- The part that follows an opening bracket, and the rest of the text. -/
def readClass : List Char → Except PatternError (Part × List Char)
  | '!' :: rest => do
    let (inside, after) ← splitClass rest
    return (.noneOf (classMembers inside), after)
  | rest => do
    let (inside, after) ← splitClass rest
    return (.oneOf (classMembers inside), after)

/-- The parts of a pattern text. A segment is fresh before its first character. The number bounds
the length of the text. -/
def readParts : Nat → Bool → List Char → Except PatternError (List Part)
  | 0, _, _ | _, _, [] => .ok []
  | fuel + 1, _, '?' :: rest => (.anyChar :: ·) <$> readParts fuel false rest
  | fuel + 1, fresh, '*' :: rest =>
    match rest.takeWhile (· = '*') with
    | [] => (.anyChars :: ·) <$> readParts fuel false rest
    | [_] =>
      match fresh, rest.drop 1 with
      | true, [] => .ok [.anyDirectories]
      | true, '/' :: after => (.anyDirectories :: ·) <$> readParts fuel true after
      | _, _ => .error .starsInsideSegment
    | _ => .error .tooManyStars
  | fuel + 1, _, '[' :: rest => do
    let (part, after) ← readClass rest
    return part :: (← readParts fuel false after)
  | fuel + 1, _, c :: rest => (.char c :: ·) <$> readParts fuel (c = '/') rest

/-- The parts of a pattern text. -/
def readPattern (text : List Char) : Except PatternError (List Part) :=
  readParts text.length true text

/-! ### Matching -/

/-- Whether a character belongs to a member of a class. -/
def ClassMember.contains : ClassMember → Char → Bool
  | single c, x => x = c
  | range first last, x => decide (first ≤ x) && decide (x ≤ last)

/-- Whether a part stands for one character. -/
def Part.admits : Part → Char → Bool
  | char c, x => x = c
  | anyChar, _ => true
  | oneOf members, x => members.any (·.contains x)
  | noneOf members, x => !members.any (·.contains x)
  | anyChars, _ | anyDirectories, _ => false

/-- A list and every list that is left when its first elements are removed. -/
def suffixes {α : Type} : List α → List (List α)
  | [] => [[]]
  | x :: xs => (x :: xs) :: suffixes xs

/-- Whether a name matches some parts. -/
def matchesName : List Part → List Char → Bool
  | [], name => name.isEmpty
  | .anyChars :: parts, name => (suffixes name).any (matchesName parts)
  | _ :: _, [] => false
  | part :: parts, c :: name => part.admits c && matchesName parts name

end PlaceholderExports.Glob
