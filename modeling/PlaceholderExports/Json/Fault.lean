import PlaceholderExports.Text.Quoted
import PlaceholderExports.Text.Shortest

/-!
# Faults of JSON texts

Why a JSON text cannot be read as a value of a certain shape. A fault of syntax names what is
missing; a value of the wrong shape is shown as it was found.

* `Fault.message`: the wordings.
-/

namespace PlaceholderExports.Json

open PlaceholderExports.Text (Numeral Double)

/-- A value of the wrong shape, as far as it is read. -/
inductive Found where
  | null
  | bool (value : Bool)
  | integer (value : Int)
  | floating (negative : Bool) (magnitude : Double)
  | string (value : String)
  | sequence
  | map
deriving DecidableEq, Repr

/-- The shape of value that is asked for. -/
inductive Shape where
  | boolean
  | string
  | sequence
  /-- A structure with a name. -/
  | record (name : String)
deriving DecidableEq, Repr

/-- Why a text is no value of a shape. -/
inductive Fault where
  | endInValue
  | endInObject
  | endInList
  | endInString
  | expectedValue
  | expectedWord
  | expectedColon
  | expectedListEnd
  | expectedObjectEnd
  | keyNotString
  | invalidNumber
  | numberOutOfRange
  | invalidEscape
  | loneSurrogate
  | endInSurrogate
  | controlCharacter
  | trailingComma
  | trailingCharacters
  | unknownField (name : String) (known : List String)
  | duplicateField (name : String)
  | wrongShape (found : Found) (expected : Shape)
deriving DecidableEq, Repr

/-! ### Wordings -/

/-- A text in backquotes. -/
def ticked (text : String) : String := "\x60" ++ text ++ "\x60"

/-- The characters that have no form of their own: format characters, blanks other than the space,
private and unassigned ones, and the marks that are drawn over others, as far as they are common. -/
def unseenRanges : List (Nat × Nat) :=
  [(0x7F, 0xA0), (0xAD, 0xAD), (0x300, 0x36F), (0x378, 0x379), (0x483, 0x489), (0x591, 0x5BD),
   (0x5BF, 0x5BF), (0x5C1, 0x5C2), (0x5C4, 0x5C5), (0x600, 0x605), (0x610, 0x61A), (0x61C, 0x61C),
   (0x64B, 0x65F), (0x6DD, 0x6DD), (0x180E, 0x180E), (0x1AB0, 0x1ACE), (0x1DC0, 0x1DFF),
   (0x1680, 0x1680), (0x2000, 0x200F), (0x2028, 0x202F), (0x205F, 0x206F), (0x20D0, 0x20F0),
   (0x302A, 0x302F), (0x3000, 0x3000), (0x3099, 0x309A), (0xE000, 0xF8FF), (0xFE00, 0xFE0F),
   (0xFE20, 0xFE2F), (0xFEFF, 0xFEFF), (0xFFF0, 0xFFFB), (0xFFFE, 0xFFFF), (0xE0000, 0x10FFFF)]

/-- Whether a character has no form of its own. -/
def isUnseen (c : Char) : Bool := unseenRanges.any fun (a, b) => a ≤ c.toNat && c.toNat ≤ b

/-- A character of a string that is shown. -/
def shownChar (c : Char) : List Char :=
  match c with
  | '"' => ['\\', '"']
  | '\\' => ['\\', '\\']
  | '\n' => ['\\', 'n']
  | '\r' => ['\\', 'r']
  | '\t' => ['\\', 't']
  | '\x00' => ['\\', '0']
  | c =>
    if c.toNat < 0x20 || isUnseen c then
      '\\' :: 'u' :: '\x7b' :: Nat.toDigits 16 c.toNat ++ ['\x7d']
    else [c]

/-- A string in quotes, as it is shown in a message. -/
def shownString (text : String) : String :=
  String.ofList ('"' :: text.toList.flatMap shownChar ++ ['"'])

/-- Some zeros. -/
def zeros (count : Int) : List Char := List.replicate count.natAbs '0'

/-- A decimal as it is shown in a message: positional from 1e-5 up to 1e16, with a digit on both
sides of the point, and with an exponent outside. -/
def shownDecimal (n : Numeral) : String :=
  let digits := Nat.toDigits 10 n.digits
  let point := (digits.length : Int) + n.exponent
  String.ofList <|
    if n.digits = 0 then ['0', '.', '0']
    else if 0 ≤ n.exponent && point ≤ 16 then digits ++ zeros n.exponent ++ ['.', '0']
    else if 0 < point && point ≤ 16 then
      digits.take point.natAbs ++ '.' :: digits.drop point.natAbs
    else if -5 < point && point ≤ 0 then '0' :: '.' :: zeros point ++ digits
    else
      let exponent := 'e' :: (toString (point - 1)).toList
      match digits with
      | [d] => d :: exponent
      | d :: ds => d :: '.' :: ds ++ exponent
      | [] => []

/-- A decimal without zeros at its end. -/
def withoutZeros (n : Numeral) : Numeral :=
  let digits := Nat.toDigits 10 n.digits
  let count := (digits.reverse.takeWhile (· = '0')).length
  if n.digits = 0 then n else ⟨n.digits / Text.tenTo count, n.exponent + count⟩

/-- A double as it is shown in a message. -/
def shownDouble (negative : Bool) (magnitude : Double) : String :=
  (if negative then "-" else "") ++ shownDecimal (withoutZeros magnitude.shortest)

/-- What was found, in words. -/
def Found.words : Found → String
  | null => "null"
  | bool value => "boolean " ++ ticked (if value then "true" else "false")
  | integer value => "integer " ++ ticked (toString value)
  | floating negative magnitude => "floating point " ++ ticked (shownDouble negative magnitude)
  | string value => "string " ++ shownString value
  | sequence => "sequence"
  | map => "map"

/-- What was expected, in words. -/
def Shape.words : Shape → String
  | boolean => "a boolean"
  | string => "a string"
  | sequence => "a sequence"
  | record name => "struct " ++ name

/-- The known fields, in words. -/
def fieldWords (known : List String) : String :=
  match known with
  | [] => "there are no fields"
  | [a] => "expected " ++ ticked a
  | [a, b] => "expected " ++ ticked a ++ " or " ++ ticked b
  | known => "expected one of " ++ ", ".intercalate (known.map ticked)

/-- The wording of a fault. -/
def Fault.message : Fault → String
  | endInValue => "EOF while parsing a value"
  | endInObject => "EOF while parsing an object"
  | endInList => "EOF while parsing a list"
  | endInString => "EOF while parsing a string"
  | expectedValue => "expected value"
  | expectedWord => "expected ident"
  | expectedColon => "expected " ++ ticked ":"
  | expectedListEnd => "expected " ++ ticked "," ++ " or " ++ ticked "]"
  | expectedObjectEnd => "expected " ++ ticked "," ++ " or " ++ ticked "\x7d"
  | keyNotString => "key must be a string"
  | invalidNumber => "invalid number"
  | numberOutOfRange => "number out of range"
  | invalidEscape => "invalid escape"
  | loneSurrogate => "lone leading surrogate in hex escape"
  | endInSurrogate => "unexpected end of hex escape"
  | controlCharacter => "control character (\\u0000-\\u001F) found while parsing a string"
  | trailingComma => "trailing comma"
  | trailingCharacters => "trailing characters"
  | unknownField name known => "unknown field " ++ ticked name ++ ", " ++ fieldWords known
  | duplicateField name => "duplicate field " ++ ticked name
  | wrongShape found expected => "invalid type: " ++ found.words ++ ", expected " ++ expected.words

end PlaceholderExports.Json
