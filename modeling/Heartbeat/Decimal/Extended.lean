import Heartbeat.Decimal.Binary64
import Heartbeat.Decimal.Scientific
/-!
# Decimals by steps of 64 bits

Tables read and write numbers by multiplying with powers of ten in steps of `10 ^ 100`, `10 ^ 10`
and `10`, and every step is rounded to a mantissa of 64 bits. `Magnitude.ofSteps?` reads a decimal
so: it is exact where the steps are, and may miss the nearest magnitude where they are not.
`Magnitude.leading` gives the leading digits of a magnitude, found by the same steps.
-/
namespace Heartbeat.Decimal

/-- A value `mantissa · 2 ^ exponent` with a mantissa of at most `2 ^ 64`. -/
structure Extended where
  mantissa : Nat
  exponent : Int
  deriving DecidableEq, Repr

namespace Extended

/-- The value nearest to `mantissa · 2 ^ exponent`. -/
def round (mantissa : Nat) (exponent : Int) : Extended :=
  let extra := mantissa.log2 - 63
  ⟨Magnitude.roundDiv mantissa (twoTo extra), exponent + extra⟩

def tenTo (power : Int) : Extended :=
  let (n, d) := Scientific.toRatio ⟨1, power⟩
  let exponent := Magnitude.leadingBit n d - 63
  let (n, d) := Magnitude.scaled n d exponent
  ⟨Magnitude.roundDiv n d, exponent⟩

def mul (a b : Extended) : Extended := round (a.mantissa * b.mantissa) (a.exponent + b.exponent)

def toRatio (x : Extended) : Nat × Nat := Magnitude.scaled x.mantissa 1 (-x.exponent)

def below (a b : Extended) : Bool :=
  let (n, d) := a.toRatio
  let (n', d') := b.toRatio
  n * d' < n' * d

/-- The value times a power of ten, by the largest steps first. -/
def scale (x : Extended) (power : Int) : Extended :=
  let size := power.natAbs
  let step (n : Nat) : Extended := tenTo (if power < 0 then -n else n)
  let steps := List.replicate (size / 100) (step 100) ++
    List.replicate (size % 100 / 10) (step 10) ++ List.replicate (size % 10) (step 1)
  steps.foldl mul x

/-- Multiplies with `10 ^ step` as long as the test holds, and counts the power. The first number
bounds the steps. -/
def scaleWhile (test : Extended → Bool) (step : Int) : Nat → Extended × Int → Extended × Int
  | 0, state => state
  | fuel + 1, (x, power) =>
    if test x then scaleWhile test step fuel (x.mul (tenTo step), power - step) else (x, power)

/-- The value as a decimal whose digits are cut off behind the seventeenth to nineteenth. No
binary64 magnitude takes more steps of one size than are allowed here. -/
def toScientific (x : Extended) : Scientific :=
  let atLeast (power : Int) (x : Extended) : Bool := !x.below (tenTo power)
  let lessThan (power : Int) (x : Extended) : Bool := x.below (tenTo power)
  let (x, power) :=
    if atLeast 19 x then
      scaleWhile (atLeast 19) (-1) 20 (scaleWhile (atLeast 29) (-10) 20
        (scaleWhile (atLeast 119) (-100) 20 (x, 0)))
    else
      scaleWhile (lessThan 17) 1 20 (scaleWhile (lessThan 7) 10 20
        (scaleWhile (lessThan (-97)) 100 20 (x, 0)))
  let (n, d) := x.toRatio
  ⟨n / d, power⟩

end Extended

namespace Scientific

/-- The decimal that digits and a power of ten spell, as far as 64 bits hold its digits: one more
digit is taken as long as there is room for any. `whole` of the digits stand before the point. -/
def ofDigits (digits : List Char) (whole : Nat) (exponent : Int) : Scientific :=
  let (value, used) := digits.foldl
    (fun (value, used) c =>
      if value < 1844674407370955160 then (value * 10 + charValue c, used + 1) else (value, used))
    ((0, 0) : Nat × Nat)
  ⟨value, exponent + whole - used⟩

/-- The same decimal with an exponent as near to zero as 64 bits allow. The first number bounds
the steps. -/
def levelled : Nat → Scientific → Scientific
  | 0, d => d
  | fuel + 1, d =>
    if 0 < d.exponent && d.digits < 1844674407370955161 then
      levelled fuel ⟨d.digits * 10, d.exponent - 1⟩
    else if d.exponent < 0 && d.digits % 10 = 0 then
      levelled fuel ⟨d.digits / 10, d.exponent + 1⟩
    else d

end Scientific

namespace Magnitude

/-- The magnitude of a decimal, by steps of 64 bits; `none` beyond the greatest finite one. The
digits fit 64 bits, so no more than twenty of them can be levelled. -/
def ofSteps? (d : Scientific) : Option Magnitude :=
  if d.digits = 0 then some zero
  else
    let d := d.levelled 20
    let (n, k) := (Extended.scale ⟨d.digits, 0⟩ d.exponent).toRatio
    ofRatio? n k

/-- The leading digits of a magnitude, at most `count` of them, without zeros at their end. -/
def leading (count : Nat) (m : Magnitude) : Scientific :=
  if m.mantissa = 0 then ⟨0, 0⟩
  else (((⟨m.mantissa, m.exponent⟩ : Extended).toScientific).roundedTo count).withoutZeros count

end Magnitude
end Heartbeat.Decimal
