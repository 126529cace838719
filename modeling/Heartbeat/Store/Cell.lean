import Heartbeat.Decimal.Extended
/-!
# Cells of the table

A cell holds an integer, another number or a text. Columns prefer one kind and turn a value into it
as well as it can: a text column writes numbers as texts, with 15 digits at most. An integer column
makes an integer of a number that is one, also of one that a text spells, and keeps any other
content as it is.
-/
namespace Heartbeat.Store

open Decimal (Binary64 Magnitude Scientific)

inductive Cell where
  | integer (n : Int64)
  | real (x : Binary64)
  | text (s : String)
  deriving DecidableEq, Repr

namespace Cell

/-- Numbers have at most 15 digits in a text column, and a point always. -/
def spelling : Decimal.Spelling := ⟨-4, 15, true, 2, false⟩

def toText : Cell → String
  | .integer n => toString n.toInt
  | .real x => spelling.write x.negative (x.magnitude.leading 15)
  | .text s => s

def integer? (n : Int) : Option Cell :=
  if -9223372036854775808 ≤ n ∧ n < 9223372036854775808 then some (.integer (Int64.ofInt n))
  else none

/-- An integer, as another number if it does not fit 64 bits with a sign. -/
def ofInt? (n : Int) : Option Cell :=
  (integer? n).or ((Magnitude.ofNat? n.natAbs).map fun m => .real ⟨decide (n < 0), m⟩)

/-- The number as an integer, if it is one and its absolute value is below `2 ^ 63`. -/
def ofReal (x : Binary64) : Cell :=
  let (n, d) := x.magnitude.toRatio
  if n % d = 0 ∧ n / d < 9223372036854775808 then
    let whole : Int := (n / d : Nat)
    .integer (Int64.ofInt (if x.negative then -whole else whole))
  else .real x

/-- Digits in front, and what follows. -/
def spanDigits (chars : List Char) : List Char × List Char :=
  (chars.takeWhile Decimal.isDigitChar, chars.dropWhile Decimal.isDigitChar)

/-- The value of an exponent's digits, cut to 10000 where digits follow that or more. -/
def exponentOf (digits : List Char) : Nat :=
  digits.foldl (fun n c => if n < 10000 then n * 10 + Decimal.charValue c else 10000) 0

/-- The number that an unsigned text spells: its value if it is written as a whole number, and the
decimal that is read from it. -/
def spelled? (chars : List Char) : Option (Option Nat × Scientific) :=
  let (whole, rest) := spanDigits chars
  let (fraction, rest, point) := match rest with
    | '.' :: more => ((spanDigits more).1, (spanDigits more).2, true)
    | _ => ([], rest, false)
  if whole.isEmpty && fraction.isEmpty then none
  else
    let decimal (exponent : Int) := Scientific.ofDigits (whole ++ fraction) whole.length exponent
    match rest with
    | [] => some (if point then none else some (Decimal.valueOf whole), decimal 0)
    | c :: more =>
      if c = 'e' ∨ c = 'E' then
        let (sign, more) : Int × List Char := match more with
          | '+' :: more => (1, more)
          | '-' :: more => (-1, more)
          | _ => (1, more)
        let (digits, after) := spanDigits more
        if digits.isEmpty || !after.isEmpty then none
        else some (none, decimal (sign * exponentOf digits))
      else none

def ofText? (s : String) : Option Cell :=
  let blank (c : Char) : Bool := c == ' ' || ('\t' ≤ c && c ≤ '\r')
  let chars := ((s.toList.dropWhile blank).reverse.dropWhile blank).reverse
  let (negative, chars) := match chars with
    | '-' :: rest => (true, rest)
    | '+' :: rest => (false, rest)
    | _ => (false, chars)
  match spelled? chars with
  | none => none
  | some (whole, decimal) =>
    let asInteger := whole.bind fun n => integer? (if negative then -(n : Int) else n)
    match asInteger with
    | some cell => some cell
    | none => (Magnitude.ofSteps? decimal).map fun m => ofReal ⟨negative, m⟩

def toInteger : Cell → Cell
  | .integer n => .integer n
  | .real x => ofReal x
  | .text s => (ofText? s).getD (.text s)

/-- The id that a cell spells. A column of ids keeps integers only. -/
def id? (cell : Cell) : Option Int64 :=
  match cell.toInteger with
  | .integer n => some n
  | _ => none

end Cell
end Heartbeat.Store
