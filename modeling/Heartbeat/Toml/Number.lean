import Heartbeat.Decimal.Fixed
import Heartbeat.Toml.Text
import Heartbeat.Toml.Value
/-!
# Numbers in a document

An integer is decimal with an optional sign, or hexadecimal, octal or binary without one, and fits
64 bits with a sign. A number with a fraction or an exponent is rounded once, to the nearest
binary64 number; one that is too large is refused, one that is too far below zero is infinite. Single
underscores may stand between digits, and a decimal number of more than one digit does not start
with zero.
-/
namespace Heartbeat.Toml

/-- Reads a digit, if there is one, and an underscore in front of it. -/
def nextDigit? (isDigit : Char → Bool) : Reader Char
  | '_' :: c :: rest => if isDigit c then some (c, rest) else none
  | c :: rest => if isDigit c then some (c, rest) else none
  | [] => none

/-- Reads one or more digits, with single underscores between them. -/
def digits? (isDigit : Char → Bool) : Reader (List Char)
  | [] => none
  | c :: rest =>
    if isDigit c then
      let (more, rest) := readMany (nextDigit? isDigit) rest.length rest
      some (c :: more, rest)
    else none

/-- Reads the digits before the point of a number: a zero, or digits of which the first is none. -/
def wholeDigits? : Reader (List Char)
  | '0' :: rest => some (['0'], rest)
  | chars => digits? Decimal.isDigitChar chars

/-- Reads a sign, if there is one. The answer is whether it is a minus. -/
def signOf : List Char → Bool × List Char
  | '+' :: rest => (false, rest)
  | '-' :: rest => (true, rest)
  | chars => (false, chars)

/-- Reads what follows a point, if there is one and digits after it. -/
def fraction? : Reader (List Char)
  | '.' :: rest => digits? Decimal.isDigitChar rest
  | _ => none

def exponent? : Reader Int := fun chars =>
  match chars with
  | c :: rest =>
    if c = 'e' ∨ c = 'E' then
      let (negative, rest) := signOf rest
      (digits? Decimal.isDigitChar rest).map fun (digits, rest) =>
        let n : Int := Decimal.valueOf digits
        (if negative then -n else n, rest)
    else none
  | [] => none

def fitting? (n : Int) : Option Value :=
  if Int64.minValue.toInt ≤ n ∧ n ≤ Int64.maxValue.toInt then some (.integer (.ofInt n)) else none

/-- The number with a fraction or an exponent, if it is not too large. -/
def real? (negative : Bool) (digits : List Char) (exponent : Int) : Option Value :=
  match Decimal.Magnitude.ofDecimal? (Decimal.valueOf digits) exponent with
  | some magnitude => some (.real (.finite ⟨negative, magnitude⟩))
  | none => if negative then some (.real (.infinite true)) else none

def decimal? : Reader Value := fun chars => do
  let (negative, chars) := signOf chars
  let (whole, rest) ← wholeDigits? chars
  let (part, rest) := (fraction? rest).getD ([], rest)
  match exponent? rest with
  | some (exponent, rest) =>
    return (← real? negative (whole ++ part) (exponent - part.length), rest)
  | none =>
    if part.isEmpty then
      let n : Int := Decimal.valueOf whole
      return (← fitting? (if negative then -n else n), rest)
    else return (← real? negative (whole ++ part) (-part.length), rest)

/-- Reads the digits of an integer in a base below 17. -/
def based? (base : Nat) : Reader Value := fun chars => do
  let value c := (hexDigit? c).filter (· < base)
  let (digits, rest) ← digits? (fun c => (value c).isSome) chars
  let n := (digits.filterMap value).foldl (fun n digit => n * base + digit) 0
  return (← fitting? n, rest)

/-- Reads the word for a number that is infinite or none. -/
def numberWord? : Reader Real := fun chars =>
  match signOf chars with
  | (negative, 'i' :: 'n' :: 'f' :: rest) => some (.infinite negative, rest)
  | (_, 'n' :: 'a' :: 'n' :: rest) => some (.notNumber, rest)
  | _ => none

/-- Reads a number, if one starts here. -/
def number? : Reader Value
  | '0' :: 'x' :: rest => based? 16 rest
  | '0' :: 'o' :: rest => based? 8 rest
  | '0' :: 'b' :: rest => based? 2 rest
  | chars =>
    match numberWord? chars with
    | some (real, rest) => some (.real real, rest)
    | none => decimal? chars

end Heartbeat.Toml
