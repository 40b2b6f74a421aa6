/-!
# UTF-8

Encoding of texts as bytes and the strict decoding of bytes as texts. Decoding stops at the first
fault and says where it is and how many bytes belong to the broken sequence, or that the text ends
inside a sequence.

* `encode`, `decode`: between characters and bytes.
* `Utf8Error.message`: the wording of a fault.
-/

namespace PlaceholderExports.Text

/-- The contents of a file. -/
abbrev Bytes := List UInt8

/-- The UTF-8 bytes of a text. -/
def encode (text : String) : Bytes := text.toList.flatMap String.utf8EncodeChar

/-- Why bytes are no text. -/
inductive Utf8Error where
  /-- The bytes at an index cannot be continued to a character. -/
  | invalid (index length : Nat)
  /-- The text ends inside the sequence that starts at an index. -/
  | incomplete (index : Nat)
deriving DecidableEq, Repr

/-- The wording of a fault. -/
def Utf8Error.message : Utf8Error → String
  | .invalid index length =>
    "invalid utf-8 sequence of " ++ toString length ++ " bytes from index " ++ toString index
  | .incomplete index => "incomplete utf-8 byte sequence from index " ++ toString index

/-- Whether a byte continues a sequence. -/
def isContinuation (b : UInt8) : Bool := 0x80 ≤ b.toNat && b.toNat < 0xC0

/-- The range of the second byte after a first byte of a sequence of three or four. -/
def secondByteRange (first : Nat) : Nat × Nat :=
  if first = 0xE0 then (0xA0, 0xBF)
  else if first = 0xED then (0x80, 0x9F)
  else if first = 0xF0 then (0x90, 0xBF)
  else if first = 0xF4 then (0x80, 0x8F)
  else (0x80, 0xBF)

/-- Whether a byte may follow a first byte. -/
def isSecondByte (first : Nat) (b : UInt8) : Bool :=
  (secondByteRange first).1 ≤ b.toNat && b.toNat ≤ (secondByteRange first).2

/-- What the front of some bytes is. -/
inductive Utf8Step where
  /-- A character and the bytes after it. -/
  | char (c : Char) (length : Nat) (rest : Bytes)
  /-- A broken sequence of some length. -/
  | invalid (length : Nat)
  /-- The bytes end inside a sequence. -/
  | incomplete

/-- Reads the character in front. -/
def decodeStep (first : UInt8) (rest : Bytes) : Utf8Step :=
  let b0 := first.toNat
  if b0 < 0x80 then .char (Char.ofNat b0) 1 rest
  else if b0 < 0xC2 || 0xF5 ≤ b0 then .invalid 1
  else if b0 < 0xE0 then
    match rest with
    | [] => .incomplete
    | b1 :: rest =>
      if isContinuation b1 then .char (Char.ofNat (b0 % 0x20 * 0x40 + b1.toNat % 0x40)) 2 rest
      else .invalid 1
  else
    match rest with
    | [] => .incomplete
    | b1 :: rest =>
      if !isSecondByte b0 b1 then .invalid 1
      else
        match rest with
        | [] => .incomplete
        | b2 :: rest =>
          if !isContinuation b2 then .invalid 2
          else if b0 < 0xF0 then
            .char (Char.ofNat (b0 % 0x10 * 0x1000 + b1.toNat % 0x40 * 0x40 + b2.toNat % 0x40)) 3
              rest
          else
            match rest with
            | [] => .incomplete
            | b3 :: rest =>
              if !isContinuation b3 then .invalid 3
              else
                .char (Char.ofNat (b0 % 0x08 * 0x40000 + b1.toNat % 0x40 * 0x1000 +
                  b2.toNat % 0x40 * 0x40 + b3.toNat % 0x40)) 4 rest

/-- Decodes at most so many characters, counting bytes from an index. -/
def decodeChars : Nat → Nat → Bytes → Except Utf8Error (List Char)
  | _, _, [] => .ok []
  | 0, index, _ :: _ => .error (.incomplete index)
  | fuel + 1, index, b :: rest =>
    match decodeStep b rest with
    | .char c length rest => (decodeChars fuel (index + length) rest).map (c :: ·)
    | .invalid length => .error (.invalid index length)
    | .incomplete => .error (.incomplete index)

/-- The text of some bytes, or the first fault. A text has no more characters than bytes. -/
def decode (bytes : Bytes) : Except Utf8Error String :=
  (decodeChars bytes.length 0 bytes).map String.ofList

end PlaceholderExports.Text
