/-!
# Quoted texts

Double-quoted literals as JSON writes them: a quote and a backslash are escaped by a backslash, five
control characters have a letter of their own, the other characters below U+0020 are written as
`\u00xx` with lower-case digits, and everything else stands for itself.

* `quote`: the literal of a text.
* `hexDigit`, `hexDigits`: lower-case digits of a fixed width.
-/

namespace PlaceholderExports.Text

/-- The lower-case hexadecimal digit of a number below sixteen. -/
def hexDigit (n : Nat) : Char :=
  if n < 10 then Char.ofNat ('0'.toNat + n) else Char.ofNat ('a'.toNat + (n - 10))

/-- The last `width` hexadecimal digits of a number, the highest first. -/
def hexDigits : Nat → Nat → List Char
  | 0, _ => []
  | width + 1, n => hexDigits width (n / 16) ++ [hexDigit (n % 16)]

/-- How one character is written inside a quoted text. -/
def escapeChar (c : Char) : List Char :=
  match c with
  | '"' => ['\\', '"']
  | '\\' => ['\\', '\\']
  | '\x08' => ['\\', 'b']
  | '\x0c' => ['\\', 'f']
  | '\n' => ['\\', 'n']
  | '\r' => ['\\', 'r']
  | '\t' => ['\\', 't']
  | c => if c.toNat < 0x20 then '\\' :: 'u' :: hexDigits 4 c.toNat else [c]

/-- The characters of a text between its quotes. -/
def escapeChars (text : List Char) : List Char := text.flatMap escapeChar

/-- The quoted literal of a text. -/
def quote (text : String) : String :=
  String.ofList ('"' :: escapeChars text.toList ++ ['"'])

end PlaceholderExports.Text
