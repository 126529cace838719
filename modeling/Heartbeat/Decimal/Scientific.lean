import Heartbeat.Decimal.Fixed
/-!
# Decimals with an exponent

A `Scientific` is whole digits and a power of ten, as numbers are read and written. A `Spelling`
is a notation for them: where it stops writing them without an exponent, and what the exponent
looks like.
-/
namespace Heartbeat.Decimal

/-- A decimal `digits · 10 ^ exponent`. -/
structure Scientific where
  digits : Nat
  exponent : Int
  deriving DecidableEq, Repr

namespace Scientific

def toRatio (d : Scientific) : Nat × Nat :=
  if 0 ≤ d.exponent then (d.digits * tenTo d.exponent.toNat, 1)
  else (d.digits, tenTo (-d.exponent).toNat)

/-- The same decimal without the zeros that end its digits, up to the given number of them. -/
def withoutZeros : Nat → Scientific → Scientific
  | 0, d => d
  | count + 1, d =>
    if d.digits % 10 = 0 then withoutZeros count ⟨d.digits / 10, d.exponent + 1⟩ else d

/-- The decimal with at most `count` digits; a half goes up. -/
def roundedTo (count : Nat) (d : Scientific) : Scientific :=
  let extra := (toString d.digits).length - count
  if extra = 0 then d
  else ⟨(d.digits + tenTo extra / 2) / tenTo extra, d.exponent + extra⟩

end Scientific

/-- How numbers are spelled. There is a point always, with a digit after it, in positional
notation. -/
structure Spelling where
  /-- The first power of ten of the first digit that is written without an exponent. -/
  positionalFrom : Int
  /-- The power of ten of the first digit from which on there is an exponent again. -/
  positionalTo : Int
  /-- Whether there is a point, with a digit after it, in front of an exponent too. -/
  pointAlways : Bool
  /-- The least number of digits of an exponent. -/
  exponentWidth : Nat
  /-- Whether a zero keeps its sign. -/
  signedZero : Bool

namespace Spelling

def message : Spelling := ⟨-5, 16, false, 1, true⟩

/-- The digits of an exponent with its sign. -/
def writeExponent (style : Spelling) (exponent : Int) : String :=
  let digits := toString exponent.natAbs
  let zeros := List.replicate (style.exponentWidth - digits.length) '0'
  (if exponent < 0 then "-" else "+") ++ String.ofList zeros ++ digits

/-- A decimal without its sign; its digits do not end with a zero. -/
def writeDigits (style : Spelling) (d : Scientific) : String :=
  let digits := toString d.digits
  let leading : Int := d.exponent + (digits.length - 1 : Nat)
  if style.positionalFrom ≤ leading && leading < style.positionalTo then
    if 0 ≤ d.exponent then
      digits ++ String.ofList (List.replicate d.exponent.toNat '0') ++ ".0"
    else if 0 ≤ leading then
      let whole := (leading + 1).toNat
      String.ofList (digits.toList.take whole) ++ "." ++ String.ofList (digits.toList.drop whole)
    else
      "0." ++ String.ofList (List.replicate (-leading - 1).toNat '0') ++ digits
  else
    let mantissa := match digits.toList with
      | first :: second :: rest => String.ofList (first :: '.' :: second :: rest)
      | short => String.ofList short ++ (if style.pointAlways then ".0" else "")
    mantissa ++ "e" ++ style.writeExponent leading

/-- A decimal with its sign; its digits do not end with a zero. -/
def write (style : Spelling) (negative : Bool) (d : Scientific) : String :=
  if d.digits = 0 then (if negative && style.signedZero then "-0.0" else "0.0")
  else (if negative then "-" else "") ++ style.writeDigits d

end Spelling
end Heartbeat.Decimal
