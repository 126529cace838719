import Heartbeat.Json.Fault
/-!
# JSON numbers

A number without fraction and exponent that fits 64 bits, signed if negative, is an integer; every
other one is a binary64 number. A significand keeps the digits that fit 64 bits and drops the rest.
-/
namespace Heartbeat.Json

/-- A number as it was read. -/
inductive Number where
  | integer (value : Int)
  | double (value : Decimal.Binary64)
  deriving DecidableEq, Repr

def Number.found : Number → Found
  | .integer value => .integer value
  | .double value => .float value

def isDigit (b : UInt8) : Bool := 0x30 ≤ b && b ≤ 0x39

def digitValue (b : UInt8) : Nat := b.toNat - 0x30

/-- Appends digits to a significand as long as it fits 64 bits; also how many are left over. -/
def gather : Nat → Bytes → Nat × Nat
  | significand, [] => (significand, 0)
  | significand, digit :: digits =>
    let longer := significand * 10 + digitValue digit
    if longer < 18446744073709551616 then gather longer digits else (significand, digits.length + 1)

/-- The number with these parts, once all of its text has been read. -/
def fromParts (negative : Bool) (significand : Nat) (exponent : Int) : Reader Number := fun rest =>
  match Decimal.Magnitude.ofParts? significand exponent with
  | some magnitude => .ok (.double ⟨negative, magnitude⟩, rest)
  | none => .error (.before .numberOutOfRange rest)

/-- The digits of an exponent after its first one. The value stays below `2 ^ 31`, or the text
after the digit that takes it there is left. -/
def exponentDigits : Nat → Bytes → Except Bytes (Nat × Bytes)
  | value, [] => .ok (value, [])
  | value, b :: rest =>
    if isDigit b then
      let longer := value * 10 + digitValue b
      if longer < 2147483648 then exponentDigits longer rest else .error rest
    else .ok (value, b :: rest)

/-- Reads what follows the letter of an exponent. -/
def exponentPart (negative : Bool) (significand : Nat) (exponent : Int) : Reader Number :=
  fun text =>
    let (down, text) : Bool × Bytes := match text with
      | 0x2B :: rest => (false, rest)
      | 0x2D :: rest => (true, rest)
      | _ => (false, text)
    match text with
    | [] => .error (.before .endOfValue [])
    | b :: rest =>
      if isDigit b then
        match exponentDigits (digitValue b) rest with
        | .ok (value, rest) =>
          fromParts negative significand (if down then exponent - value else exponent + value) rest
        | .error rest =>
          if significand ≠ 0 ∧ ¬ down then .error (.before .numberOutOfRange rest)
          else .ok (.double ⟨negative, .zero⟩, rest.dropWhile isDigit)
      else .error (.before .invalidNumber rest)

/-- Reads what follows the point of a fraction. -/
def fractionPart (negative : Bool) (significand : Nat) (exponent : Int) : Reader Number :=
  fun text =>
    let digits := text.takeWhile isDigit
    let rest := text.dropWhile isDigit
    if digits.isEmpty then
      .error (.onNext (if rest.isEmpty then .endOfValue else .invalidNumber) rest)
    else
      let (significand, dropped) := gather significand digits
      let exponent := exponent - (digits.length - dropped : Nat)
      match rest with
      | 0x65 :: rest | 0x45 :: rest => exponentPart negative significand exponent rest
      | _ => fromParts negative significand exponent rest

/-- The number whose digits before a point are read: an integer if nothing else follows and it
fits, with zero as an integer only if it has no sign. -/
def afterDigits (negative : Bool) (significand dropped : Nat) : Reader Number := fun text =>
  match text with
  | 0x2E :: rest => fractionPart negative significand dropped rest
  | 0x65 :: rest | 0x45 :: rest => exponentPart negative significand dropped rest
  | _ =>
    if dropped = 0 then
      if ¬ negative then .ok (.integer significand, text)
      else if significand ≠ 0 ∧ significand ≤ 9223372036854775808 then .ok (.integer (-significand), text)
      else fromParts negative significand 0 text
    else fromParts negative significand dropped text

/-- Reads a number whose sign has been read. -/
def unsigned (negative : Bool) : Reader Number := fun text =>
  match text with
  | [] => .error (.before .endOfValue [])
  | b :: rest =>
    if b = 0x30 then
      if (rest.head?.map isDigit).getD false then .error (.onNext .invalidNumber rest)
      else afterDigits negative 0 0 rest
    else if isDigit b then
      let (significand, dropped) := gather 0 (text.takeWhile isDigit)
      afterDigits negative significand dropped (text.dropWhile isDigit)
    else .error (.before .invalidNumber rest)

/-- Reads a number, if the text starts with one. -/
def number? (text : Bytes) : Option (Except Fault (Number × Bytes)) :=
  match text with
  | 0x2D :: rest => some (unsigned true rest)
  | b :: _ => if isDigit b then some (unsigned false text) else none
  | [] => none

end Heartbeat.Json
