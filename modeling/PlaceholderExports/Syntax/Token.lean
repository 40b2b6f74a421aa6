import PlaceholderExports.Syntax.Tree
import PlaceholderExports.Text.Identifier

/-!
# Tokens

A module text is a sequence of tokens with blanks, line breaks and comments between them.
`Token.scan` takes the token in front of a text; `skipTrivia` takes what may stand before one. What
a slash, a closing brace or an angle bracket begins depends on the place where it stands, so regular
expressions and the later chunks of templates have readers of their own, and `<` and `>` are always
tokens of one character.

* `skipTrivia`: blanks and comments, and whether a line ends among them.
* `scanString`, `scanNumber`, `scanName`, `scanTemplate`, `scanRegex`: the long tokens.
* `Token.scan`: the token in front.

The readers that may take several characters in one step carry a second copy of the text, of which
they drop one character a step, so that they end.
-/

namespace PlaceholderExports.Syntax

open PlaceholderExports.Text (Numeral isIdentifierStart isIdentifierPart)

/-- Tokens. -/
inductive Token where
  /-- A name or keyword; one that is written with escapes is never a keyword. -/
  | name (text : String) (escaped : Bool)
  | privateName (text : String)
  | number (value : Numeral)
  | bigint (digits : String)
  | string (value : StringLit)
  /-- A template up to its end or to its first substitution. -/
  | template (chunk : String) (valid isLast : Bool)
  | punct (text : String)
  | eof
  | bad
deriving DecidableEq, Repr, Inhabited

/-! ### Characters -/

/-- The characters that end a line. -/
def isLineBreak (c : Char) : Bool :=
  c == '\n' || c == '\r' || c == '\u2028' || c == '\u2029'

/-- The characters that separate tokens without ending a line. -/
def isBlank (c : Char) : Bool :=
  let n := c.toNat
  n == 0x20 || n == 0x09 || n == 0x0B || n == 0x0C || n == 0xA0 || n == 0xFEFF || n == 0x85 ||
    n == 0x1680 || (0x2000 ≤ n && n ≤ 0x200B) || n == 0x202F || n == 0x205F || n == 0x3000

/-- The value of a digit in a base up to sixteen. -/
def digitValue? (base : Nat) (c : Char) : Option Nat :=
  let n :=
    if c.isDigit then some (c.toNat - '0'.toNat)
    else if 'a' ≤ c && c ≤ 'f' then some (c.toNat - 'a'.toNat + 10)
    else if 'A' ≤ c && c ≤ 'F' then some (c.toNat - 'A'.toNat + 10)
    else none
  n.filter (· < base)

/-- Whether a character is a digit in a base. -/
def isDigitIn (base : Nat) (c : Char) : Bool := (digitValue? base c).isSome

/-- The number that digits write in a base. -/
def digitsValue (base : Nat) (digits : List Char) : Nat :=
  digits.foldl (fun n c => n * base + (digitValue? base c).getD 0) 0

/-! ### Blanks and comments -/

/-- Where a reader of blanks and comments is. -/
inductive TriviaMode where
  | between
  | lineComment
  | blockComment
deriving DecidableEq, Repr

/-- Whether a block comment ends. -/
def blockCommentEnds : List Char → Bool
  | '*' :: '/' :: _ => true
  | _ :: rest => blockCommentEnds rest
  | [] => false

/-- Skips blanks and comments, and notes whether a line ends among them. An open comment stays. -/
def skipTrivia : TriviaMode → Bool → List Char → List Char × Bool
  | .between, newline, '/' :: '/' :: rest => skipTrivia .lineComment newline rest
  | .between, newline, '/' :: '*' :: rest =>
    if blockCommentEnds rest then skipTrivia .blockComment newline rest
    else ('/' :: '*' :: rest, newline)
  | .between, newline, c :: rest =>
    if isLineBreak c then skipTrivia .between true rest
    else if isBlank c then skipTrivia .between newline rest
    else (c :: rest, newline)
  | .lineComment, newline, c :: rest =>
    if isLineBreak c then skipTrivia .between true rest
    else skipTrivia .lineComment newline rest
  | .blockComment, newline, '*' :: '/' :: rest => skipTrivia .between newline rest
  | .blockComment, newline, c :: rest => skipTrivia .blockComment (newline || isLineBreak c) rest
  | _, newline, [] => ([], newline)

/-- The comment that begins a text, and the text after it. -/
def takeComment? (startsLine : Bool) : List Char → Option (Comment × List Char)
  | '/' :: '/' :: rest =>
    let text := rest.takeWhile (!isLineBreak ·)
    let whole := String.ofList ('/' :: '/' :: text)
    some ({ text := whole, isLine := true, startsLine, endsLine := true }, rest.drop text.length)
  | '/' :: '*' :: rest =>
    let body := blockBody rest
    some ({ text := String.ofList ('/' :: '*' :: body), isLine := false, startsLine
            endsLine := false },
      rest.drop body.length)
  | _ => none
where
  /-- The text up to the end of a block comment. -/
  blockBody : List Char → List Char
    | '*' :: '/' :: _ => ['*', '/']
    | c :: rest => c :: blockBody rest
    | [] => []

/-- The comments of a stretch of blanks and comments that belong to the token after it, when a line
has ended before the next character or not: a comment on the line of the token before does not. The
first argument is a copy of the text. -/
def commentsBefore : List Char → Bool → List Comment → List Char → List Comment
  | _ :: fuel, newline, found, c :: rest =>
    match takeComment? newline (c :: rest) with
    | some (comment, rest) =>
      if !comment.isLine then commentsBefore fuel newline (found ++ [comment]) rest
      else if newline then commentsBefore fuel true (found ++ [comment]) rest
      else commentsBefore fuel true [] rest
    | none =>
      if !isLineBreak c then commentsBefore fuel newline found rest
      else if newline then commentsBefore fuel true (endLine found) rest
      else commentsBefore fuel true [] rest
  | _, _, found, _ => found
where
  /-- Marks the last comment as one that ends its line. -/
  endLine : List Comment → List Comment
    | [] => []
    | [comment] => [{ comment with endsLine := true }]
    | comment :: more => comment :: endLine more

/-! ### Escapes -/

/-- What an escape stands for. -/
inductive Piece where
  | char (c : Char)
  /-- Half of a surrogate pair. -/
  | surrogate (unit : Nat)
  | nothing
deriving DecidableEq, Repr

/-- The piece of a code point or code unit. -/
def Piece.ofNat (n : Nat) : Piece :=
  if 0xD800 ≤ n && n < 0xE000 then .surrogate n else .char (Char.ofNat n)

/-- The code point of a Unicode escape after its `u`, and the text after it. -/
def scanCodePoint : List Char → Option (Nat × List Char)
  | '\x7b' :: rest =>
    let digits := rest.takeWhile (isDigitIn 16)
    match rest.dropWhile (isDigitIn 16) with
    | '\x7d' :: rest =>
      let n := digitsValue 16 digits
      if digits.isEmpty || n > 0x10FFFF then none else some (n, rest)
    | _ => none
  | a :: b :: c :: d :: rest =>
    if [a, b, c, d].all (isDigitIn 16) then some (digitsValue 16 [a, b, c, d], rest) else none
  | _ => none

/-- The piece of an octal escape of at most three digits below 256, and the text after it. -/
def scanOctal : List Char → Piece × List Char
  | a :: b :: c :: rest =>
    if [a, b, c].all (isDigitIn 8) && a ≤ '3' then (.ofNat (digitsValue 8 [a, b, c]), rest)
    else if [a, b].all (isDigitIn 8) then (.ofNat (digitsValue 8 [a, b]), c :: rest)
    else (.ofNat (digitsValue 8 [a]), b :: c :: rest)
  | [a, b] =>
    if isDigitIn 8 b then (.ofNat (digitsValue 8 [a, b]), []) else (.ofNat (digitsValue 8 [a]), [b])
  | [a] => (.ofNat (digitsValue 8 [a]), [])
  | [] => (.nothing, [])

/-- The piece of an escape after its backslash, and the text after it. -/
def scanEscape : List Char → Option (Piece × List Char)
  | 'n' :: rest => some (.char '\n', rest)
  | 't' :: rest => some (.char '\t', rest)
  | 'r' :: rest => some (.char '\r', rest)
  | 'b' :: rest => some (.char '\x08', rest)
  | 'v' :: rest => some (.char '\x0b', rest)
  | 'f' :: rest => some (.char '\x0c', rest)
  | '\r' :: '\n' :: rest => some (.nothing, rest)
  | 'x' :: a :: b :: rest =>
    if isDigitIn 16 a && isDigitIn 16 b then some (.ofNat (digitsValue 16 [a, b]), rest) else none
  | 'x' :: _ => none
  | 'u' :: rest => (scanCodePoint rest).map fun (n, rest) => (.ofNat n, rest)
  | c :: rest =>
    if isLineBreak c then some (.nothing, rest)
    else if isDigitIn 8 c then some (scanOctal (c :: rest))
    else some (.char c, rest)
  | [] => none

/-! ### Strings -/

/-- The pieces of a string up to its closing quote, and the text after that. -/
def scanPieces (quote : Char) : List Char → List Char → Option (List Piece × List Char)
  | _ :: fuel, '\\' :: rest =>
    match scanEscape rest with
    | some (piece, rest) => (scanPieces quote fuel rest).map fun (ps, rest) => (piece :: ps, rest)
    | none => none
  | _ :: fuel, c :: rest =>
    if c = quote then some ([], rest)
    else if c = '\n' || c = '\r' then none
    else (scanPieces quote fuel rest).map fun (ps, rest) => (.char c :: ps, rest)
  | _, _ => none

/-- Joins the halves of surrogate pairs. -/
def joinSurrogates : List Piece → List Piece
  | .surrogate hi :: .surrogate lo :: rest =>
    if hi < 0xDC00 && 0xDC00 ≤ lo then
      .char (Char.ofNat (0x10000 + (hi - 0xD800) * 0x400 + (lo - 0xDC00))) :: joinSurrogates rest
    else .surrogate hi :: joinSurrogates (.surrogate lo :: rest)
  | .nothing :: rest => joinSurrogates rest
  | p :: rest => p :: joinSurrogates rest
  | [] => []

/-- Four lower-case hexadecimal digits. -/
def fourHexDigits (n : Nat) : List Char :=
  [n / 0x1000 % 16, n / 0x100 % 16, n / 0x10 % 16, n % 16].map Nat.digitChar

/-- The characters of a piece, by themselves or marked by U+FFFD. -/
def Piece.chars (marked : Bool) : Piece → List Char
  | .char c => if marked && c == '\ufffd' then c :: fourHexDigits 0xFFFD else [c]
  | .surrogate unit => '\ufffd' :: fourHexDigits unit
  | .nothing => []

/-- Whether a piece is half of a surrogate pair. -/
def Piece.isSurrogate : Piece → Bool
  | .surrogate _ => true
  | _ => false

/-- The literal of some pieces, written in a certain way. -/
def StringLit.ofPieces (raw : List Char) (pieces : List Piece) : StringLit :=
  let pieces := joinSurrogates pieces
  let lone := pieces.any Piece.isSurrogate
  { value := String.ofList (pieces.flatMap (Piece.chars lone)), raw := String.ofList raw,
    hasLoneSurrogate := lone }

/-- What stands before a tail of a text, without one character at its end. -/
def textBefore (whole tail : List Char) : List Char :=
  whole.take (whole.length - tail.length - 1)

/-- The string literal after its opening quote, and the text after it. -/
def scanString (quote : Char) (cs : List Char) : Option (StringLit × List Char) :=
  (scanPieces quote cs cs).map fun (pieces, rest) =>
    (StringLit.ofPieces (textBefore cs rest) pieces, rest)

/-! ### Numbers -/

/-- Whether separators stand between digits only. -/
def separatorsFit : List Char → Bool
  | '_' :: _ => false
  | cs => fit cs
where
  /-- Whether every separator is followed by a digit. -/
  fit : List Char → Bool
    | ['_'] => false
    | '_' :: '_' :: _ => false
    | _ :: rest => fit rest
    | [] => true

/-- A run of digits with separators, and the text after it; nothing if a separator does not fit. -/
def scanDigits (base : Nat) (cs : List Char) : Option (List Char × List Char) :=
  let run := cs.takeWhile fun c => isDigitIn base c || c == '_'
  if separatorsFit run then some (run.filter (· ≠ '_'), cs.dropWhile fun c =>
    isDigitIn base c || c == '_')
  else none

/-- The digits of an exponent after its sign, and the text after them. -/
def scanExponentDigits (negative : Bool) (cs : List Char) : Option (Int × List Char) :=
  match scanDigits 10 cs with
  | some (d :: ds, rest) =>
    let n : Int := digitsValue 10 (d :: ds)
    some (if negative then -n else n, rest)
  | _ => none

/-- The exponent of a number, if one is written, and the text after it. -/
def scanExponent : List Char → Option (Int × List Char)
  | e :: rest =>
    if e = 'e' || e = 'E' then
      match rest with
      | '-' :: rest => scanExponentDigits true rest
      | '+' :: rest => scanExponentDigits false rest
      | rest => scanExponentDigits false rest
    else some (0, e :: rest)
  | [] => some (0, [])

/-- The token of a whole number in a base with a prefix. -/
def scanRadix (base : Nat) (mark : List Char) (cs : List Char) : Option (Token × List Char) :=
  match scanDigits base cs with
  | some (d :: ds, 'n' :: rest) => some (.bigint (String.ofList (mark ++ d :: ds)), rest)
  | some (d :: ds, rest) => some (.number { digits := digitsValue base (d :: ds) }, rest)
  | _ => none

/-- The digits after a decimal point, if one is written, and the text after them. -/
def scanPoint : List Char → Option (List Char × List Char)
  | '.' :: rest => scanDigits 10 rest
  | rest => some ([], rest)

/-- The token of a number with a fraction after a whole part, or without one. -/
def scanFraction (whole : List Char) (cs : List Char) : Option (Token × List Char) :=
  match scanPoint cs with
  | some (fraction, rest) =>
    (scanExponent rest).map fun (e, rest) =>
      (.number { digits := digitsValue 10 (whole ++ fraction), exponent := e - fraction.length },
        rest)
  | none => none

/-- The token of a decimal number. A leading zero before other octal digits makes it octal. -/
def scanDecimal (cs : List Char) : Option (Token × List Char) :=
  match scanDigits 10 cs with
  | none => none
  | some (whole, rest) =>
    match whole with
    | '0' :: d :: ds =>
      if (cs.takeWhile fun c => isDigitIn 10 c || c == '_').contains '_' then none
      else if (d :: ds).all (isDigitIn 8) then
        some (.number { digits := digitsValue 8 (d :: ds) }, rest)
      else scanFraction whole rest
    | whole =>
      match rest with
      | 'n' :: rest => some (.bigint (String.ofList whole), rest)
      | rest => scanFraction whole rest

/-- The number in front of a text, and the text after it. -/
def scanNumeral : List Char → Option (Token × List Char)
  | '0' :: x :: rest =>
    if x = 'x' || x = 'X' then scanRadix 16 ['0', 'x'] rest
    else if x = 'o' || x = 'O' then scanRadix 8 ['0', 'o'] rest
    else if x = 'b' || x = 'B' then scanRadix 2 ['0', 'b'] rest
    else scanDecimal ('0' :: x :: rest)
  | '.' :: rest => scanFraction [] ('.' :: rest)
  | cs => scanDecimal cs

/-- The number in front of a text that no name follows at once, and the text after it. -/
def scanNumber (cs : List Char) : Option (Token × List Char) :=
  (scanNumeral cs).filter fun (_, rest) => match rest with
    | c :: _ => !(isIdentifierStart c || c.isDigit || c == '\\')
    | [] => true

/-! ### Names -/

/-- The characters of a name, whether one of them is escaped, and the text after them. An escape
must stand for a character that fits. -/
def scanNameChars (start : Bool) : List Char → List Char → Option (List Char × Bool × List Char)
  | _ :: fuel, '\\' :: 'u' :: rest =>
    match scanCodePoint rest with
    | some (n, rest) =>
      let c := Char.ofNat n
      if (if start then isIdentifierStart c else isIdentifierPart c) then
        (scanNameChars false fuel rest).map fun (cs, _, rest) => (c :: cs, true, rest)
      else none
    | none => none
  | _ :: fuel, c :: rest =>
    if (if start then isIdentifierStart c else isIdentifierPart c) then
      (scanNameChars false fuel rest).map fun (cs, escaped, rest) => (c :: cs, escaped, rest)
    else if start || c == '\\' then none
    else some ([], false, c :: rest)
  | _, [] => if start then none else some ([], false, [])
  | [], _ => none

/-- The name in front of a text, whether it is escaped, and the text after it. -/
def scanName (cs : List Char) : Option (String × Bool × List Char) :=
  (scanNameChars true cs cs).map fun (name, escaped, rest) =>
    (String.ofList name, escaped, rest)

/-! ### Templates and regular expressions -/

/-- The character in front of a template, and the text after it. Line breaks become line feeds. -/
def scanTemplateChar : List Char → Option (Char × List Char)
  | '\r' :: '\n' :: rest => some ('\n', rest)
  | '\r' :: rest => some ('\n', rest)
  | c :: rest => some (c, rest)
  | [] => none

/-- Whether an escape of a template is valid, given what follows its backslash. -/
def isTemplateEscape : List Char → Bool
  | c :: rest =>
    if c.isDigit then c == '0' && !(rest.head?.any Char.isDigit)
    else (scanEscape (c :: rest)).isSome
  | [] => false

/-- The character in front of a template or the backslash and the character after it, whether that
is a valid escape, and the text after it. -/
def scanTemplateUnit : List Char → Option ((List Char × Bool) × List Char)
  | '\\' :: cs =>
    (scanTemplateChar cs).map fun (c, rest) => ((['\\', c], isTemplateEscape cs), rest)
  | cs => (scanTemplateChar cs).map fun (c, rest) => (([c], true), rest)

/-- The characters of a template up to its end or to a substitution, whether its escapes are valid,
whether it ends, and the text after that. -/
def scanTemplateChars : List Char → List Char → Option (List Char × Bool × Bool × List Char)
  | _ :: _, '\x60' :: rest => some ([], true, true, rest)
  | _ :: _, '$' :: '\x7b' :: rest => some ([], true, false, rest)
  | _ :: fuel, cs =>
    match scanTemplateUnit cs with
    | some ((unit, valid), rest) =>
      (scanTemplateChars fuel rest).map fun (cs, ok, last, rest) =>
        (unit ++ cs, valid && ok, last, rest)
    | none => none
  | [], _ => none

/-- The chunk of a template after a backquote or a closing brace, with whether its escapes are valid
and whether the template ends. -/
def scanTemplate (cs : List Char) : Option ((String × Bool × Bool) × List Char) :=
  (scanTemplateChars cs cs).map fun (chunk, valid, isLast, rest) =>
    ((String.ofList chunk, valid, isLast), rest)

/-- The body of a regular expression up to its closing slash, and the text after that. -/
def scanRegexBody (inClass : Bool) : List Char → Option (List Char × List Char)
  | '\\' :: c :: rest =>
    if isLineBreak c then none
    else (scanRegexBody inClass rest).map fun (body, rest) => ('\\' :: c :: body, rest)
  | '/' :: rest =>
    if inClass then (scanRegexBody inClass rest).map fun (body, rest) => ('/' :: body, rest)
    else some ([], rest)
  | c :: rest =>
    if isLineBreak c then none
    else
      let inClass := (inClass || c == '[') && c != ']'
      (scanRegexBody inClass rest).map fun (body, rest) => (c :: body, rest)
  | [] => none

/-- The flags that a regular expression may have. -/
def regexFlags : List Char := ['d', 'g', 'i', 'm', 's', 'u', 'v', 'y']

/-- The body and the flags of a regular expression after its opening slash. -/
def scanRegex (cs : List Char) : Option (Atom × List Char) :=
  match scanRegexBody false cs with
  | none => none
  | some (body, rest) =>
    let flags := rest.takeWhile isIdentifierPart
    if flags.all regexFlags.contains && decide flags.Nodup then
      some (.regex (String.ofList body) (String.ofList flags), rest.dropWhile isIdentifierPart)
    else none

/-! ### Markup -/

/-- A name in markup, which may hold hyphens, and the text after it. -/
def scanMarkupWord (cs : List Char) : Option (String × List Char) :=
  let part := fun c => isIdentifierPart c || c == '-'
  let name := cs.takeWhile part
  if name.head?.any isIdentifierStart then some (String.ofList name, cs.dropWhile part) else none

/-- A quoted value of an attribute, which has no escapes, and the text after it. -/
def scanQuotedValue : List Char → Option (StringLit × List Char)
  | [] => none
  | quote :: cs =>
    if quote == '"' || quote == '\'' then
      match cs.dropWhile (· ≠ quote) with
      | _ :: rest =>
        let text := String.ofList (cs.takeWhile (· ≠ quote))
        some ({ value := text, raw := text }, rest)
      | [] => none
    else none

/-- The text up to the next bracket or brace, and the text from there on. -/
def scanMarkupText (cs : List Char) : String × List Char :=
  let plain := fun c => decide (c ∉ ['<', '>', '\x7b', '\x7d'])
  (String.ofList (cs.takeWhile plain), cs.dropWhile plain)

/-! ### Tokens -/

/-- The punctuators; one that another one begins stands after it. -/
def punctuators : List String :=
  ["...", "===", "!==", "**=", "&&=", "||=", "??=",
   "=>", "==", "!=", "+=", "++", "-=", "--", "**", "*=", "/=", "%=", "&&", "&=", "||", "|=", "^=",
   "??", "?.",
   "\x7b", "\x7d", "(", ")", "[", "]", ";", ",", "<", ">", "=", "!", "+", "-", "*", "/", "%", "&",
   "|", "^", "~", "?", ":", ".", "@"]

/-- The text after a prefix, if it begins with that. -/
def dropPrefix? : List Char → List Char → Option (List Char)
  | [], cs => some cs
  | p :: ps, c :: cs => if p = c then dropPrefix? ps cs else none
  | _ :: _, [] => none

/-- The first punctuator of a list that begins a text. An optional chain is not one before a
digit. -/
def scanPunctuator (cs : List Char) : List String → Option (Token × List Char)
  | [] => none
  | p :: ps =>
    match dropPrefix? p.toList cs with
    | some rest =>
      if p == "?." && (rest.head?.any Char.isDigit) then scanPunctuator cs ps
      else some (.punct p, rest)
    | none => scanPunctuator cs ps

/-- The token in front of a text, if one is there, and the text after it. -/
def Token.scan? : List Char → Option (Token × List Char)
  | [] => some (.eof, [])
  | '/' :: '*' :: _ => none
  | '"' :: rest => (scanString '"' rest).map fun (s, rest) => (.string s, rest)
  | '\'' :: rest => (scanString '\'' rest).map fun (s, rest) => (.string s, rest)
  | '\x60' :: rest => (scanTemplate rest).map fun ((chunk, valid, isLast), rest) =>
    (.template chunk valid isLast, rest)
  | '#' :: rest => (scanName rest).map fun (id, _, rest) => (.privateName id, rest)
  | c :: rest =>
    if isIdentifierStart c || c == '\\' then
      (scanName (c :: rest)).map fun (id, escaped, rest) => (.name id escaped, rest)
    else if c.isDigit || (c == '.' && (rest.head?.any Char.isDigit)) then scanNumber (c :: rest)
    else scanPunctuator (c :: rest) punctuators

/-- The token in front of a text, and the text after it. -/
def Token.scan (cs : List Char) : Token × List Char := (scan? cs).getD (.bad, cs)

end PlaceholderExports.Syntax
