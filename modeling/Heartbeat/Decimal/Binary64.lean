import Heartbeat.Decimal.Fixed
/-!
# Binary64 numbers in exact arithmetic

A finite binary64 number is a sign and a magnitude `mantissa · 2 ^ exponent`. Every operation
computes the exact quotient first and rounds it once, to the nearest representable magnitude and
to the even mantissa on a tie, so nothing here depends on the machine's floating point.
-/
namespace Heartbeat.Decimal

/-- A magnitude `mantissa · 2 ^ exponent`, with a mantissa below `2 ^ 53` and an exponent of at
least −1074; normal numbers have a mantissa of at least `2 ^ 52`. -/
structure Magnitude where
  mantissa : Nat
  exponent : Int
  deriving DecidableEq, Repr

/-- A finite binary64 number. -/
structure Binary64 where
  negative : Bool
  magnitude : Magnitude
  deriving DecidableEq, Repr

namespace Magnitude

/-- Mantissas are below this, `2 ^ 53`. -/
def mantissaBound : Nat := 9007199254740992

/-- The least mantissa of a normal number, `2 ^ 52`. -/
def leastNormal : Nat := 4503599627370496

/-- The least exponent, that of the subnormal numbers. -/
def minExponent : Int := -1074

/-- The greatest exponent of a finite number. -/
def maxExponent : Int := 971

def zero : Magnitude := ⟨0, minExponent⟩

/-- A quotient rounded to a whole number, ties to the even one. -/
def roundDiv (numerator denominator : Nat) : Nat :=
  let quotient := numerator / denominator
  let twice := 2 * (numerator % denominator)
  if twice < denominator || (twice = denominator && quotient % 2 = 0) then quotient
  else quotient + 1

/-- `numerator / denominator / 2 ^ exponent` as a quotient of natural numbers. -/
def scaled (numerator denominator : Nat) (exponent : Int) : Nat × Nat :=
  if 0 ≤ exponent then (numerator, denominator * twoTo exponent.toNat)
  else (numerator * twoTo (-exponent).toNat, denominator)

/-- The power of two of the first bit of a quotient that is not zero. -/
def leadingBit (numerator denominator : Nat) : Int :=
  let guess : Int := (numerator.log2 : Int) - (denominator.log2 : Int)
  let (n, d) := scaled numerator denominator guess
  if n < d then guess - 1 else guess

/-- The exponent at which the quotient's mantissa has 53 bits, as far as subnormals allow. -/
def exponentFor (numerator denominator : Nat) : Int :=
  max (leadingBit numerator denominator - 52) minExponent

/-- The magnitude nearest to a quotient; `none` beyond the greatest finite one. -/
def ofRatio? (numerator denominator : Nat) : Option Magnitude :=
  if numerator = 0 then some zero
  else
    let exponent := exponentFor numerator denominator
    let (n, d) := scaled numerator denominator exponent
    let mantissa := roundDiv n d
    let result : Magnitude :=
      if mantissa = mantissaBound then ⟨leastNormal, exponent + 1⟩ else ⟨mantissa, exponent⟩
    if result.exponent ≤ maxExponent then some result else none

/-- The magnitude as a quotient of natural numbers. -/
def toRatio (m : Magnitude) : Nat × Nat :=
  if 0 ≤ m.exponent then (m.mantissa * twoTo m.exponent.toNat, 1)
  else (m.mantissa, twoTo (-m.exponent).toNat)

/-- The rounded product; `none` on overflow. -/
def mul? (a b : Magnitude) : Option Magnitude :=
  let (n, d) := a.toRatio
  let (n', d') := b.toRatio
  ofRatio? (n * n') (d * d')

/-- The rounded quotient by a magnitude that is not zero; `none` on overflow. -/
def div? (a b : Magnitude) : Option Magnitude :=
  let (n, d) := a.toRatio
  let (n', d') := b.toRatio
  ofRatio? (n * d') (d * n')

def ofNat? (n : Nat) : Option Magnitude := ofRatio? n 1

def powerOfTen (k : Nat) : Magnitude := (ofNat? (tenTo k)).getD zero

/-- Divides by `10 ^ 308` until the decimal exponent is within reach of one table of powers.
The first number bounds the steps; a magnitude of zero stays as it is. -/
def shrink : Nat → Magnitude → Nat → Magnitude
  | 0, m, _ => m
  | fuel + 1, m, drop =>
    if m.mantissa = 0 then m
    else if drop ≤ 308 then (m.div? (powerOfTen drop)).getD zero
    else shrink fuel ((m.div? (powerOfTen 308)).getD zero) (drop - 308)

/-- `significand · 10 ^ exponent`, computed as number readers do that keep no further digits:
the significand is rounded first, and then multiplied or divided by a rounded power of ten.
`none` if the result is beyond the greatest finite magnitude. -/
def ofParts? (significand : Nat) (exponent : Int) : Option Magnitude := do
  let m ← ofNat? significand
  if exponent < 0 then
    -- every step takes 308 decimal places, and 400 places make any magnitude vanish
    return shrink 8 m (-exponent).toNat
  else if exponent ≤ 308 then
    m.mul? (powerOfTen exponent.toNat)
  else if m.mantissa = 0 then
    return m
  else
    none

/-- The magnitude nearest to `n · 10 ^ exponent`; `none` beyond the greatest finite one. A number that
is certainly too large or too small is not worked out: `n` has no more digits than a third of its
bits, and one. -/
def ofDecimal? (n : Nat) (exponent : Int) : Option Magnitude :=
  let most : Nat := n.log2 / 3 + 1
  if n = 0 ∨ exponent + most < -400 then some zero
  else if 400 < exponent then none
  else if 0 ≤ exponent then ofRatio? (n * tenTo exponent.toNat) 1
  else ofRatio? n (tenTo (-exponent).toNat)

end Magnitude
end Heartbeat.Decimal
