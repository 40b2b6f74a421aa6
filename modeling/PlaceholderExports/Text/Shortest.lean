/-!
# Decimal numerals

A numeral is a non-negative number as it is written: some digits and a power of ten. It stands for
the double nearest to it, ties going to the even mantissa. The shortest decimal of a double is the
one with the fewest digits that still stands for it, and the nearest to it among those.

* `tenTo`, `twoTo`: powers of ten and of two.
* `Numeral.double?`: the double of a numeral, if it is not too large.
* `Double.shortest`: the shortest decimal of a double.
-/

namespace PlaceholderExports.Text

/-- A power of ten. -/
def tenTo (n : Nat) : Nat := Nat.pow 10 n

/-- A power of two. -/
def twoTo (n : Nat) : Nat := Nat.pow 2 n

/-- The number `digits * 10 ^ exponent`. -/
structure Numeral where
  digits : Nat
  exponent : Int := 0
deriving DecidableEq, Repr, Inhabited

/-! ### Doubles -/

/-- The number `mantissa * 2 ^ exponent`, whose mantissa has at most 53 binary digits. -/
structure Double where
  mantissa : Nat
  exponent : Int
deriving DecidableEq, Repr

/-- A quotient rounded to the nearest number, a half to the even one. -/
def roundDiv (num den : Nat) : Nat :=
  let q := num / den
  let twice := 2 * (num % den)
  if twice < den || (twice = den && q % 2 = 0) then q else q + 1

/-- A fraction `num / den` times a power of a base. -/
def scaled (base num den : Nat) (e : Int) : Nat × Nat :=
  if e < 0 then (num, den * base.pow e.natAbs) else (num * base.pow e.natAbs, den)

/-- The least exponent of a double. -/
def leastExponent : Int := -1074

/-- The greatest exponent of a double. -/
def greatestExponent : Int := 971

/-- The double nearest to a positive fraction, unless that is too large. -/
def nearestDouble? (num den : Nat) : Option Double :=
  let e := max leastExponent ((num.log2 : Int) - den.log2 - 53)
  let (n, d) := scaled 2 num den (-e)
  let e := if n / d ≥ twoTo 53 then e + 1 else e
  let (n, d) := scaled 2 num den (-e)
  let m := roundDiv n d
  let (m, e) := if m = twoTo 53 then (twoTo 52, e + 1) else (m, e)
  if e > greatestExponent then none else some ⟨m, e⟩

/-- The number of decimal digits. -/
def digitCount (n : Nat) : Nat := (Nat.toDigits 10 n).length

/-- The double of a numeral, unless that is too large. -/
def Numeral.double? (n : Numeral) : Option Double :=
  let magnitude := (digitCount n.digits : Int) + n.exponent
  if n.digits = 0 || magnitude < -400 then some ⟨0, leastExponent⟩
  else if magnitude > 400 then none
  else
    let (num, den) := scaled 10 n.digits 1 n.exponent
    nearestDouble? num den

namespace Double

/-- The ends of the interval of numbers that stand for a double, times four and divided by the power
of two of the double. -/
def ends (x : Double) : Nat × Nat :=
  if x.mantissa = twoTo 52 && x.exponent > leastExponent then
    (4 * x.mantissa - 1, 4 * x.mantissa + 2)
  else (4 * x.mantissa - 2, 4 * x.mantissa + 2)

/-- Whether `n * 10 ^ e` stands for a double. -/
def isReadFrom (x : Double) (n : Nat) (e : Int) : Bool :=
  let (low, high) := x.ends
  let (num, den) := scaled 10 n 1 e
  let (a, b) := scaled 2 (num * 4) den (-x.exponent)
  if x.mantissa % 2 = 0 then low * b ≤ a && a ≤ high * b else low * b < a && a < high * b

/-- The decimal with a given exponent that is nearest to a double, if it stands for the double. -/
def onGrid? (x : Double) (e : Int) : Option Numeral :=
  let (num, den) := scaled 2 x.mantissa 1 x.exponent
  let (a, b) := scaled 10 num den (-e)
  let n := roundDiv a b
  if x.isReadFrom n e then some ⟨n, e⟩
  else if x.isReadFrom (n + 1) e then some ⟨n + 1, e⟩
  else none

/-- The first decimal found on ever finer grids. -/
def firstOnGrid (x : Double) : Nat → Int → Numeral
  | 0, e => ⟨0, e⟩
  | tries + 1, e => (x.onGrid? e).getD (x.firstOnGrid tries (e - 1))

/-- The shortest decimal that stands for a double. -/
def shortest (x : Double) : Numeral :=
  if x.mantissa = 0 then ⟨0, 0⟩
  else
    let (num, den) := scaled 2 x.mantissa 1 x.exponent
    let top : Int :=
      if num < den then -(digitCount (den / num) : Int) + 1 else digitCount (num / den)
    x.firstOnGrid 20 top

end Double

end PlaceholderExports.Text
