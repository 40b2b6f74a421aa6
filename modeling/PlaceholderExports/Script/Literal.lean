import PlaceholderExports.Syntax.Tree
import PlaceholderExports.Text.Quoted

/-!
# Literals of scripts

Numbers are written by value, in the shortest of the ways that a script allows: positional, with an
exponent, or hexadecimal. Strings stand in double quotes, and only characters that could not stand
there are escaped.

* `numberText`, `stringText`, `directiveText`: the literals.
-/

namespace PlaceholderExports.Script

open PlaceholderExports.Text (Numeral Double hexDigits)
open PlaceholderExports.Syntax (StringLit)

/-! ### Numbers -/

/-- The digits of a decimal without zeros at the end, and its power of ten. -/
def significant (n : Numeral) : List Char × Int :=
  let digits := Nat.toDigits 10 n.digits
  let zeros := (digits.reverse.takeWhile (· = '0')).length
  if n.digits = 0 then (['0'], 0) else (digits.take (digits.length - zeros), n.exponent + zeros)

/-- Some zeros. -/
def zeros (count : Nat) : List Char := List.replicate count '0'

/-- A whole number in decimal digits. -/
def decimal (n : Int) : List Char :=
  if n < 0 then '-' :: Nat.toDigits 10 n.natAbs else Nat.toDigits 10 n.natAbs

/-- A decimal as it is written by default: positional from 1e-6 up to 1e21, with an exponent
outside. A zero before the point is left out. -/
def plainNumber (n : Numeral) : List Char :=
  let (digits, e) := significant n
  let point := (digits.length : Int) + e
  if 0 ≤ e && point ≤ 21 then digits ++ zeros e.natAbs
  else if 0 < point && point ≤ 21 then
    digits.take point.natAbs ++ '.' :: digits.drop point.natAbs
  else if -6 < point && point ≤ 0 then '.' :: zeros point.natAbs ++ digits
  else
    match digits with
    | [d] => d :: 'e' :: decimal (point - 1)
    | d :: ds => d :: '.' :: ds ++ 'e' :: decimal (point - 1)
    | [] => []

/-- The shorter of two texts, the first if they are of one length. -/
def shorter (a b : List Char) : List Char := if b.length < a.length then b else a

/-- A fraction below a tenth, possibly with an exponent instead of its leading zeros. -/
def shortFraction : List Char → List Char
  | '.' :: '0' :: rest =>
    let digits := rest.dropWhile (· = '0')
    let e := rest.length + 1
    shorter ('.' :: '0' :: rest) (digits ++ 'e' :: decimal (-e))
  | text => text

/-- A whole number, possibly with an exponent instead of its zeros at the end. -/
def shortZeros (text : List Char) : List Char :=
  let count := (text.reverse.takeWhile (· = '0')).length
  if count = 0 then text
  else shorter text (text.take (text.length - count) ++ 'e' :: decimal count)

/-- A text with a point and an exponent, possibly without the point. -/
def shortExponent (text : List Char) : List Char :=
  let whole := text.takeWhile (· ≠ '.')
  match text.dropWhile (· ≠ '.') with
  | '.' :: rest =>
    let fraction := rest.takeWhile (· ≠ 'e')
    match rest.dropWhile (· ≠ 'e') with
    | 'e' :: e =>
      match (String.ofList e).toInt? with
      | some e => shorter text (whole ++ fraction ++ 'e' :: decimal (e - fraction.length))
      | none => text
    | _ => text
  | _ => text

/-- The number of a decimal, if it is whole. -/
def whole? (n : Numeral) : Option Nat :=
  let (digits, e) := significant n
  if e < 0 then none else some ((String.ofList digits).toNat?.getD 0 * Text.tenTo e.natAbs)

/-- The shortest text of a decimal. -/
def shortNumber (n : Numeral) : List Char :=
  let plain := plainNumber n
  match whole? n with
  | some k =>
    if k < 1000 then plain
    else
      let hex := '0' :: 'x' :: (Nat.toDigits 16 k)
      if hex.length < plain.length then hex else shortExponent (shortZeros plain)
  | none => shortExponent (shortFraction plain)

/-- A number literal by the double that it stands for. -/
def numberText (n : Numeral) : String :=
  match n.double? with
  | some x => String.ofList (shortNumber x.shortest)
  | none => "Infinity"

/-! ### Strings -/

/-- Whether a text goes on as the name of the script element, in capitals or not. -/
def namesScript (rest : List Char) : Bool :=
  (rest.take 7).map Char.toLower = "/script".toList

/-- A character with an escape of its own, if it has one. -/
def escape? (c : Char) (rest : List Char) : Option (List Char) :=
  match c with
  | '\x00' =>
    some (if rest.head?.any Char.isDigit then ['\\', 'x', '0', '0'] else ['\\', '0'])
  | '\x07' => some ['\\', 'x', '0', '7']
  | '\x08' => some ['\\', 'b']
  | '\x0b' => some ['\\', 'v']
  | '\x0c' => some ['\\', 'f']
  | '\n' => some ['\\', 'n']
  | '\r' => some ['\\', 'r']
  | '\x1b' => some ['\\', 'x', '1', 'B']
  | '\\' => some ['\\', '\\']
  | '"' => some ['\\', '"']
  | '\u2028' => some ("\\u2028".toList)
  | '\u2029' => some ("\\u2029".toList)
  | '\u00a0' => some ("\\xA0".toList)
  | '<' => if namesScript rest then some ['<', '\\'] else none
  | _ => none

/-- The characters of a string between its quotes. In a marked one U+FFFD begins a surrogate or
stands for itself, as the four digits after it say. -/
def stringChars (marked : Bool) : List Char → List Char
  | [] => []
  | '\ufffd' :: a :: b :: c :: d :: rest =>
    if marked && [a, b, c, d] ≠ ['f', 'f', 'f', 'd'] then
      '\\' :: 'u' :: a :: b :: c :: d :: stringChars marked rest
    else if marked then '\ufffd' :: stringChars marked rest
    else '\ufffd' :: stringChars marked (a :: b :: c :: d :: rest)
  | c :: rest => (escape? c rest).getD [c] ++ stringChars marked rest

/-- A string literal. -/
def stringText (s : StringLit) : String :=
  String.ofList ('"' :: stringChars s.hasLoneSurrogate s.value.toList ++ ['"'])

/-- The quotes that fit around a directive: not those that it holds first. -/
def directiveQuote : List Char → Char
  | '"' :: _ => '\''
  | '\'' :: _ => '"'
  | '\\' :: _ :: rest => directiveQuote rest
  | _ :: rest => directiveQuote rest
  | [] => '"'

/-- A directive, which is kept as it is written. -/
def directiveText (s : StringLit) : String :=
  let quote := (directiveQuote s.raw.toList).toString
  quote ++ s.raw ++ quote ++ ";"

end PlaceholderExports.Script
