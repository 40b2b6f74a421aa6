import PlaceholderExports.Json.Fault

/-!
# Reading JSON values

Readers of the values that a record holds. A reader stops at the first fault: a value of the wrong
shape is read only as far as it has to be shown.

* `Scan`: readers.
* `stringChars`, `number`: strings and numbers.
* `string`, `boolean`, `list`: values of a shape.
-/

namespace PlaceholderExports.Json

open PlaceholderExports.Text (Numeral Double nearestDouble? scaled tenTo twoTo)

/-- Readers: from a text to a value and the text after it, or to a fault. -/
abbrev Scan := StateT (List Char) (Except Fault)

/-- A fault. -/
def fail {α : Type} (fault : Fault) : Scan α := fun _ => .error fault

/-- The characters that separate values. -/
def isBlank (c : Char) : Bool := c == ' ' || c == '\n' || c == '\t' || c == '\r'

/-- The character in front after blanks. -/
def peek : Scan (Option Char) := fun text =>
  let text := text.dropWhile isBlank
  .ok (text.head?, text)

/-- Goes past the character in front. -/
def skip : Scan Unit := modify List.tail

/-! ### Strings -/

/-- The value of a hexadecimal digit. -/
def hexValue? (c : Char) : Option Nat :=
  if c.isDigit then some (c.toNat - '0'.toNat)
  else if 'a' ≤ c && c ≤ 'f' then some (c.toNat - 'a'.toNat + 10)
  else if 'A' ≤ c && c ≤ 'F' then some (c.toNat - 'A'.toNat + 10)
  else none

/-- The number of four hexadecimal digits, and the text after them. A text of fewer than four bytes
ends too early. -/
def hexEscape (text : List Char) : Except Fault (Nat × List Char) :=
  match text.take 4 |>.mapM hexValue? with
  | some [a, b, c, d] => .ok (((a * 16 + b) * 16 + c) * 16 + d, text.drop 4)
  | _ =>
    if (String.ofList (text.take 4)).utf8ByteSize < 4 then .error .endInString
    else .error .invalidEscape

/-- The character of a Unicode escape after its `u`, and the text after it. A leading surrogate
takes the trailing one of the next escape. -/
def unicodeEscape (text : List Char) : Except Fault (Char × List Char) := do
  let (n, rest) ← hexEscape text
  if n < 0xD800 || 0xDFFF < n then return (Char.ofNat n, rest)
  if 0xDC00 ≤ n then throw .loneSurrogate
  match rest with
  | [] => throw .endInString
  | '\\' :: [] => throw .endInString
  | '\\' :: 'u' :: rest =>
    let (low, rest) ← hexEscape rest
    if low < 0xDC00 || 0xDFFF < low then throw .loneSurrogate
    return (Char.ofNat (0x10000 + (n - 0xD800) * 0x400 + (low - 0xDC00)), rest)
  | _ => throw .endInSurrogate

/-- The character of an escape after its backslash, and the text after it. -/
def escape : List Char → Except Fault (Char × List Char)
  | [] => .error .endInString
  | '"' :: rest => .ok ('"', rest)
  | '\\' :: rest => .ok ('\\', rest)
  | '/' :: rest => .ok ('/', rest)
  | 'b' :: rest => .ok ('\x08', rest)
  | 'f' :: rest => .ok ('\x0c', rest)
  | 'n' :: rest => .ok ('\n', rest)
  | 'r' :: rest => .ok ('\r', rest)
  | 't' :: rest => .ok ('\t', rest)
  | 'u' :: rest => unicodeEscape rest
  | _ => .error .invalidEscape

/-- The characters of a string up to its closing quote, and the text after that. The first argument
is a copy of the text, of which every step drops a character. -/
def stringChars : List Char → List Char → Except Fault (List Char × List Char)
  | _, '"' :: rest => .ok ([], rest)
  | _ :: fuel, '\\' :: rest => do
    let (c, rest) ← escape rest
    let (cs, rest) ← stringChars fuel rest
    return (c :: cs, rest)
  | _ :: fuel, c :: rest => do
    if c.toNat < 0x20 then throw .controlCharacter
    let (cs, rest) ← stringChars fuel rest
    return (c :: cs, rest)
  | _, _ => .error .endInString

/-- A string after its opening quote. -/
def stringTail : Scan String := fun text =>
  (stringChars text text).map fun (cs, rest) => (String.ofList cs, rest)

/-! ### Numbers -/

/-- The number of a digit. -/
def digitValue (c : Char) : Nat := c.toNat - '0'.toNat

/-- Adds digits to a number as long as it stays below 2^64, and counts them. -/
def growDigits : Nat → Nat → List Char → Nat × Nat × List Char
  | n, count, c :: rest =>
    if c.isDigit && n * 10 + digitValue c < twoTo 64 then
      growDigits (n * 10 + digitValue c) (count + 1) rest
    else (n, count, c :: rest)
  | n, count, [] => (n, count, [])

/-- The product or quotient of a double and a power of ten up to 1e308. -/
def timesPower (x : Double) (e : Int) : Option Double := do
  let (num, den) := scaled 2 x.mantissa 1 x.exponent
  let power ← nearestDouble? (tenTo e.natAbs) 1
  let (pnum, pden) := scaled 2 power.mantissa 1 power.exponent
  if e < 0 then nearestDouble? (num * pden) (den * pnum)
  else nearestDouble? (num * pnum) (den * pden)

/-- A double times a power of ten, in steps of at most 308. -/
def scaleDouble : Nat → Double → Int → Option Double
  | 0, x, _ => some x
  | steps + 1, x, e =>
    if x.mantissa = 0 then some x
    else if e > 308 then none
    else if e < -308 then (timesPower x (-308)).bind fun x => scaleDouble steps x (e + 308)
    else timesPower x e

/-- The number of a significand and a power of ten. -/
def float (negative : Bool) (significand : Nat) (e : Int) : Scan Found :=
  match (nearestDouble? significand 1).bind fun x => scaleDouble 4 x e with
  | some x => pure (.floating negative x)
  | none => fail .numberOutOfRange

/-- A number from its exponent on, after the letter. -/
def exponentTail (negative : Bool) (significand : Nat) (e : Int) : Scan Found := do
  let sign := (← get).head?
  if sign = some '-' || sign = some '+' then skip
  let digits := (← get).takeWhile Char.isDigit
  match (← get).head? with
  | none => fail .endInValue
  | some c =>
    if !c.isDigit then fail .invalidNumber
    modify (List.drop digits.length)
    let n : Int := digits.foldl (fun n c => n * 10 + digitValue c) 0
    float negative significand (if sign = some '-' then e - n else e + n)

/-- A number after its whole part and its fraction. -/
def numberEnd (negative : Bool) (significand : Nat) (e : Int) : Scan Found := do
  match (← get).head? with
  | some 'e' | some 'E' =>
    skip
    exponentTail negative significand e
  | _ => float negative significand e

/-- A number from its fraction on, after the point. Digits that do not fit are dropped. -/
def fractionTail (negative : Bool) (significand : Nat) (e : Int) : Scan Found := do
  let (n, count, rest) := growDigits significand 0 (← get)
  set (rest.dropWhile Char.isDigit)
  if count = 0 && !(rest.head?.any Char.isDigit) then
    if rest.isEmpty then fail .endInValue else fail .invalidNumber
  numberEnd negative n (e - count)

/-- A whole number as it is shown: one that does not fit in 64 bits is a floating one, and so is a
negative zero. -/
def wholeNumber (negative : Bool) (n : Nat) : Scan Found :=
  if !negative then pure (.integer n)
  else if 0 < n && n ≤ twoTo 63 then pure (.integer (-n))
  else float true n 0

/-- A number after its sign. -/
def number (negative : Bool) : Scan Found := do
  let text ← get
  match text with
  | [] => fail .endInValue
  | '0' :: c :: _ => if c.isDigit then fail .invalidNumber
  | c :: _ => if !c.isDigit then fail .invalidNumber
  let (n, _, rest) := growDigits 0 0 text
  let dropped := (rest.takeWhile Char.isDigit).length
  set (rest.drop dropped)
  match (← get).head? with
  | some '.' =>
    skip
    fractionTail negative n dropped
  | some 'e' | some 'E' => numberEnd negative n dropped
  | _ => if dropped = 0 then wholeNumber negative n else float negative n dropped

/-! ### Values of a shape -/

/-- The rest of a word. -/
def word : List Char → Scan Unit
  | [] => pure ()
  | c :: cs => do
    match (← get).head? with
    | none => fail .endInValue
    | some d =>
      if d ≠ c then fail .expectedWord
      skip
      word cs

/-- What is found in front where something else is expected. -/
def found (first : Char) : Scan Found := do
  match first with
  | 'n' =>
    skip
    word ['u', 'l', 'l']
    return .null
  | 't' =>
    skip
    word ['r', 'u', 'e']
    return .bool true
  | 'f' =>
    skip
    word ['a', 'l', 's', 'e']
    return .bool false
  | '-' =>
    skip
    number true
  | '"' =>
    skip
    return .string (← stringTail)
  | '[' => return .sequence
  | '\x7b' => return .map
  | c => if c.isDigit then number false else fail .expectedValue

/-- A value that begins with one of some characters, and is of the wrong shape otherwise. -/
def value {α : Type} (expected : Shape) (read : Char → Option (Scan α)) : Scan α := do
  match ← peek with
  | none => fail .endInValue
  | some c =>
    match read c with
    | some p => p
    | none => fail (.wrongShape (← found c) expected)

/-- A string. -/
def string : Scan String :=
  value .string fun c => if c = '"' then some (do skip; stringTail) else none

/-- A boolean. -/
def boolean : Scan Bool :=
  value .boolean fun c =>
    if c = 't' then some (do skip; word ['r', 'u', 'e']; return true)
    else if c = 'f' then some (do skip; word ['a', 'l', 's', 'e']; return false)
    else none

/-- Whether another item of a list comes, which is told from the comma before it. -/
def hasItem (isFirst : Bool) : Scan Bool := do
  match ← peek with
  | none => fail .endInList
  | some ']' => return false
  | some ',' =>
    if isFirst then return true
    skip
    match ← peek with
    | none => fail .endInValue
    | some ']' => fail .trailingComma
    | some _ => return true
  | some _ => if isFirst then return true else fail .expectedListEnd

/-- Items up to the closing bracket. The first argument is a copy of the text, which ends the
reading. -/
def items {α : Type} (item : Scan α) : List Char → Bool → Scan (List α)
  | [], _ => fail .endInList
  | _ :: fuel, isFirst => do
    if ← hasItem isFirst then return (← item) :: (← items item fuel false)
    return []

/-- The closing bracket of a list. -/
def listEnd : Scan Unit := do
  match ← peek with
  | none => fail .endInList
  | some ']' => skip
  | some ',' =>
    skip
    match ← peek with
    | some ']' => fail .trailingComma
    | _ => fail .trailingCharacters
  | some _ => fail .trailingCharacters

/-- A list. -/
def list {α : Type} (item : Scan α) : Scan (List α) :=
  value .sequence fun c =>
    if c = '[' then
      some do
        skip
        let text ← get
        let xs ← items item (' ' :: text) true
        listEnd
        return xs
    else none

/-- Whether another member of an object comes, which is told from the comma before it. -/
def hasMember (isFirst : Bool) : Scan Bool := do
  match ← peek with
  | none => fail .endInObject
  | some '\x7d' => return false
  | some c =>
    if isFirst then
      if c = '"' then return true else fail .keyNotString
    else if c = ',' then
      skip
      match ← peek with
      | none => fail .endInValue
      | some '"' => return true
      | some '\x7d' => fail .trailingComma
      | some _ => fail .keyNotString
    else fail .expectedObjectEnd

/-- The colon after a key. -/
def colon : Scan Unit := do
  match ← peek with
  | none => fail .endInObject
  | some ':' => skip
  | some _ => fail .expectedColon

/-- A whole text. -/
def whole {α : Type} (p : Scan α) (text : String) : Except Fault α := do
  let (a, rest) ← p text.toList
  if (rest.dropWhile isBlank).isEmpty then return a else throw .trailingCharacters

end PlaceholderExports.Json
