import Heartbeat.Decimal.Binary64
import Heartbeat.Decimal.Scientific
/-!
# The shortest decimal that reads back

Of all decimals that round to a binary64 magnitude, `shortest` takes one with the fewest digits,
and of those the nearest; of two that are equally near, the one with the even last digit. A decimal
rounds to the magnitude when it lies between the midpoints to its two neighbours, the midpoints
included if the mantissa is even. If a point of a decimal grid lies there, so does one of the two
grid points next to the magnitude, so only those are tried.
-/
namespace Heartbeat.Decimal

namespace Magnitude

/-- The midpoint to the next lower magnitude. -/
def lowerMidpoint (m : Magnitude) : Nat × Nat :=
  if m.mantissa = leastNormal ∧ minExponent < m.exponent then
    toRatio ⟨4 * m.mantissa - 1, m.exponent - 2⟩
  else toRatio ⟨2 * m.mantissa - 1, m.exponent - 1⟩

/-- The midpoint to the next higher magnitude. -/
def upperMidpoint (m : Magnitude) : Nat × Nat := toRatio ⟨2 * m.mantissa + 1, m.exponent - 1⟩

/-- Whether a decimal rounds to the magnitude. -/
def isReadFrom (m : Magnitude) (d : Scientific) : Bool :=
  let (n, k) := d.toRatio
  let (lowN, lowD) := m.lowerMidpoint
  let (highN, highD) := m.upperMidpoint
  if m.mantissa % 2 = 0 then lowN * k ≤ n * lowD && n * highD ≤ highN * k
  else lowN * k < n * lowD && n * highD < highN * k

/-- How far a decimal is from the magnitude, over a common denominator of the grid. -/
def distance (m : Magnitude) (d : Scientific) : Nat :=
  let (n, k) := d.toRatio
  let (mn, md) := m.toRatio
  (n * md - mn * k) + (mn * k - n * md)

/-- The nearer of two neighbours on a grid; a tie goes to the even digits. -/
def nearer (m : Magnitude) (below above : Scientific) : Scientific :=
  match compare (m.distance below) (m.distance above) with
  | .lt => below
  | .eq => if below.digits % 2 = 0 then below else above
  | .gt => above

/-- The power of ten of the first digit of a quotient that is not zero, searched from `guess`
downwards. -/
def leadingPower (numerator denominator : Nat) : Nat → Int → Int
  | 0, guess => guess
  | fuel + 1, guess =>
    let (n, d) := Scientific.toRatio ⟨1, guess⟩
    if n * denominator ≤ numerator * d then guess
    else leadingPower numerator denominator fuel (guess - 1)

/-- The two points of the grid of `count` digits next to the magnitude. -/
def neighbours (m : Magnitude) (leading : Int) (count : Nat) : Scientific × Scientific :=
  let exponent := leading - (count - 1 : Nat)
  let (n, d) := m.toRatio
  let (gn, gd) := Scientific.toRatio ⟨1, exponent⟩
  let digits := n * gd / (d * gn)
  (⟨digits, exponent⟩, ⟨digits + 1, exponent⟩)

/-- The decimal for grids of `count` digits and more. -/
def shortestFrom (m : Magnitude) (leading : Int) : Nat → Nat → Scientific
  | 0, count => (m.neighbours leading count).1
  | fuel + 1, count =>
    let (below, above) := m.neighbours leading count
    match m.isReadFrom below, m.isReadFrom above with
    | true, true => m.nearer below above
    | true, false => below
    | false, true => above
    | false, false => shortestFrom m leading fuel (count + 1)

/-- The decimal with the fewest digits that rounds to the magnitude, and the nearest of those, in
a tie the even one. -/
def shortest (m : Magnitude) : Scientific :=
  if m.mantissa = 0 then ⟨0, 0⟩
  else
    let (n, d) := m.toRatio
    let guess : Int := ((n.log2 : Int) - (d.log2 : Int) + 1) * 30103 / 100000 + 1
    -- a nine that is rounded up leaves the only zero that can end the digits
    (shortestFrom m (leadingPower n d 4 guess) 17 1).withoutZeros 1

end Magnitude

/-- A number in the given notation, with the fewest digits that read back. -/
def Binary64.render (style : Spelling) (x : Binary64) : String :=
  style.write x.negative x.magnitude.shortest

end Heartbeat.Decimal
