import PlaceholderExports.Syntax.Tree

/-!
# Constants of enumerations

The values of the members of an enumeration that are known without running it. A member without a
value of its own is one more than the member before it.

* `Expr.constant?`: the value of an expression, if it is known.
* `Constant.next`: the value of the member after one.
-/

namespace PlaceholderExports.Script

open PlaceholderExports.Syntax

/-- A known value: the decimal `digits * 10 ^ exponent`, or a string. -/
inductive Constant where
  | number (digits : Int) (exponent : Int)
  | string (value : StringLit)
deriving DecidableEq, Repr

namespace Constant

/-- A whole number. -/
def whole (n : Int) : Constant := number n 0

/-- The number of a constant that is whole, if it is small enough to be exact. -/
def whole? : Constant → Option Int
  | number digits exponent =>
    if 0 ≤ exponent && exponent ≤ 15 then
      let n := digits * Text.tenTo exponent.natAbs
      if n.natAbs ≤ Text.twoTo 53 then some n else none
    else none
  | string _ => none

/-- The constant after one. -/
def next : Constant → Option Constant
  | number digits exponent =>
    if exponent ≥ 0 then ((number digits exponent).whole?).map fun n => whole (n + 1)
    else if exponent < -15 then none
    else some (number (digits + Text.tenTo exponent.natAbs) exponent)
  | string _ => none

/-- The constant of an operator before a constant. -/
def unary (op : String) : Constant → Option Constant
  | number digits exponent =>
    match op with
    | "-" => if digits = 0 then none else some (number (-digits) exponent)
    | "+" => some (number digits exponent)
    | "~" => ((number digits exponent).whole?).bind fun n =>
      if n.natAbs < Text.twoTo 31 then some (whole (-n - 1)) else none
    | _ => none
  | string _ => none

/-- A whole number as 32 bits. -/
def bits (n : Int) : Nat := (n % Text.twoTo 32).toNat

/-- The whole number of 32 bits with a sign. -/
def signed (n : Nat) : Int := Int.bmod n (Text.twoTo 32)

/-- The constant of an operator between two whole numbers. -/
def wholeBinary (op : String) (a b : Int) : Option Int :=
  match op with
  | "+" => some (a + b)
  | "-" => some (a - b)
  | "*" => if a = 0 || b = 0 then none else some (a * b)
  | "/" => if b = 0 || a = 0 || a % b ≠ 0 then none else some (a / b)
  | "%" => if b = 0 || a ≤ 0 then none else some (a.tmod b)
  | "**" => if 0 ≤ b && b ≤ 64 && a.natAbs ≤ Text.twoTo 32 then some (a.pow b.natAbs) else none
  | "|" => some (signed (bits a ||| bits b))
  | "&" => some (signed (bits a &&& bits b))
  | "^" => some (signed (bits a ^^^ bits b))
  | "<<" => some (signed (bits a * Text.twoTo (bits b % 32) % Text.twoTo 32))
  | ">>" => some ((signed (bits a)) / Text.twoTo (bits b % 32))
  | ">>>" => some (bits a / Text.twoTo (bits b % 32))
  | _ => none

/-- The constant of an operator between two constants. -/
def binary (op : String) : Constant → Constant → Option Constant
  | string a, string b =>
    if op == "+" && !a.hasLoneSurrogate && !b.hasLoneSurrogate then
      some (string { value := a.value ++ b.value, raw := a.raw ++ b.raw })
    else none
  | a, b => do
    let n ← wholeBinary op (← a.whole?) (← b.whole?)
    if n.natAbs ≤ Text.twoTo 53 then some (whole n) else none

end Constant

/-- The known members of an enumeration. -/
abbrev Members := List (String × Option Constant)

/-- The value of an expression over the members of an enumeration that come before it. -/
def constant? (enumeration : String) (known : Members) : Expr → Option Constant
  | .atom (.number n) => some (.number n.digits n.exponent)
  | .atom (.string s) => some (.string s)
  | .template [chunk] [] =>
    if chunk.contains '\\' then none else some (.string ⟨chunk, chunk, false⟩)
  | .grouped e | .typed e => constant? enumeration known e
  | .name id => (known.lookup id).join
  | .access (.name owner) (.field id) false =>
    if owner == enumeration then (known.lookup id).join else none
  | .index (.name owner) (.atom (.string s)) false =>
    if owner == enumeration then (known.lookup s.value).join else none
  | .unary op e => (constant? enumeration known e).bind (Constant.unary op)
  | .binary op left right => do
    Constant.binary op (← constant? enumeration known left) (← constant? enumeration known right)
  | _ => none

end PlaceholderExports.Script
