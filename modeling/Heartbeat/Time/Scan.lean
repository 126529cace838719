import Heartbeat.Text.Blank
import Heartbeat.Time.Instant
/-!
# Reading instants

Two readers share the parts of a time stamp. `Instant.read` is lenient about blanks, signs and the
number of digits; `Instant.readStrict` takes the one form of RFC 3339. Both gather the numbers in
a `Stamp` first, whose fields are checked one by one as they are read, and `Stamp.toInstant` then
asks whether there is such a date and time.
-/
namespace Heartbeat.Time

/-- Why a text is no instant. -/
inductive ScanFault where
  | outOfRange
  | impossible
  | invalid
  | tooShort
  | tooLong
  deriving DecidableEq, Repr

def ScanFault.message : ScanFault → String
  | .outOfRange => "input is out of range"
  | .impossible => "no possible date and time matching input"
  | .invalid => "input contains invalid characters"
  | .tooShort => "premature end of input"
  | .tooLong => "trailing input"

structure Stamp where
  year : Int := 0
  month : Nat := 0
  day : Nat := 0
  hour : Nat := 0
  minute : Nat := 0
  /-- Up to 60. -/
  second : Nat := 0
  nano : Nat := 0
  /-- Seconds by which the local time is ahead. -/
  offset : Int := 0
  deriving DecidableEq, Repr

/-- Reads something from the front of a text and gives the characters after it. -/
abbrev Scanner (α : Type) := List Char → Except ScanFault (α × List Char)

/-- Reads a number of at least `least` digits, and of no more than `most` if that is given. -/
def scanNumber (least : Nat) (most : Option Nat) : Scanner Nat := fun chars =>
  let reach := most.getD chars.length
  let digits := (chars.take reach).takeWhile Decimal.isDigitChar
  if chars.length < least then .error .tooShort
  else if digits.length < least then .error .invalid
  else .ok (Decimal.valueOf digits, chars.drop digits.length)

def scanChar (wanted : Char) (chars : List Char) : Except ScanFault (List Char) :=
  match chars with
  | [] => .error .tooShort
  | c :: rest => if c = wanted then .ok rest else .error .invalid

/-- The number, if it lies in the given range. -/
def within (least most : Nat) (n : Nat) : Except ScanFault Nat :=
  if least ≤ n ∧ n ≤ most then .ok n else .error .outOfRange

def scanSeparator (chars : List Char) : Except ScanFault (List Char) :=
  match chars with
  | [] => .error .tooShort
  | c :: rest => if c = 't' ∨ c = 'T' ∨ c = ' ' then .ok rest else .error .invalid

/-- Reads a fraction of a second in nanoseconds, if there is a point. Digits beyond the ninth are
passed. -/
def scanFraction : Scanner Nat := fun chars =>
  match chars with
  | '.' :: rest => do
    let (n, after) ← scanNumber 1 (some 9) rest
    let count := rest.length - after.length
    return (n * Decimal.tenTo (9 - count), after.dropWhile Decimal.isDigitChar)
  | _ => .ok (0, chars)

/-- Two characters of which the first is one byte, or more than two bytes of text. -/
def scanPair : Scanner (Char × Char) := fun chars =>
  match chars with
  | [] => .error .tooShort
  | [c] => if c.utf8Size < 2 then .error .tooShort else .error .invalid
  | a :: b :: rest => .ok ((a, b), rest)

/-- Reads an offset in seconds: `Z`, or a sign, two digits for hours and two for minutes, with
whatever `between` passes between them. -/
def scanOffset (between : List Char → Except ScanFault (List Char)) : Scanner Int := fun chars =>
  match chars with
  | [] => .error .tooShort
  | c :: rest =>
    if c = 'Z' ∨ c = 'z' then .ok (0, rest)
    else if c = '+' ∨ c = '-' ∨ c = '\u2212' then do
      let ((a, b), rest) ← scanPair rest
      if !(Decimal.isDigitChar a && Decimal.isDigitChar b) then throw .invalid
      let hours := Decimal.valueOf [a, b]
      let ((a, b), rest) ← scanPair (← between rest)
      if !(Decimal.isDigitChar a && Decimal.isDigitChar b) then throw .invalid
      let minutes ← within 0 59 (Decimal.valueOf [a, b])
      let seconds : Int := hours * 3600 + minutes * 60
      return (if c = '+' then seconds else -seconds, rest)
    else .error .invalid

/-- The instant of a time stamp, if there is such a date and time. A second of 60 is the leap
second after the 59th. -/
def Stamp.toInstant (s : Stamp) : Except ScanFault Instant :=
  let date : Date := ⟨s.year, s.month, s.day⟩
  let (second, nano) := if s.second = 60 then (59, s.nano + 1000000000) else (s.second, s.nano)
  let clock : Int := s.hour * 3600 + s.minute * 60 + second - s.offset
  if ¬ date.isValid ∨ 86400 ≤ s.offset.natAbs then .error .outOfRange
  else match Instant.ofParts? (date.toEpochDay + clock / 86400) (clock % 86400).toNat nano with
    | some t => .ok t
    | none => .error .impossible

/-- The instant of a time stamp with nothing after it. -/
def Stamp.close (s : Stamp) (rest : List Char) : Except ScanFault Instant :=
  if rest.isEmpty then s.toInstant else .error .tooLong

/-! ## The lenient form -/

/-- Reads a number after blanks. -/
def scanField (least most : Nat) : Scanner Nat := fun chars => do
  let (n, rest) ← scanNumber 1 (some 2) (Text.trimStart chars)
  return (← within least most n, rest)

/-- Reads a year after blanks: of any length with a sign, of up to four digits without. -/
def scanYear : Scanner Int := fun chars => do
  let (year, rest) ← match Text.trimStart chars with
    | '-' :: rest => do
      let (n, rest) ← scanNumber 1 none rest
      pure (-(n : Int), rest)
    | '+' :: rest => do
      let (n, rest) ← scanNumber 1 none rest
      pure ((n : Int), rest)
    | rest => do
      let (n, rest) ← scanNumber 1 (some 4) rest
      pure ((n : Int), rest)
  if -2147483648 ≤ year ∧ year < 2147483648 then return (year, rest) else throw .outOfRange

/-- Reads one given character after blanks. -/
def scanMark (wanted : Char) (chars : List Char) : Except ScanFault (List Char) :=
  scanChar wanted (Text.trimStart chars)

/-- Reads the offset of the lenient form: also the letters `UTC`, and anything of colons and
blanks, or nothing, between hours and minutes. -/
def scanZone : Scanner Int := fun chars =>
  if (chars.take 3).map Char.toUpper = ['U', 'T', 'C'] then .ok (0, chars.drop 3)
  else scanOffset (fun rest => .ok (rest.dropWhile fun c => c == ':' || Text.isBlank c)) chars

def scanStamp : Scanner Stamp := fun chars => do
  let (year, rest) ← scanYear chars
  let (month, rest) ← scanField 1 12 (← scanMark '-' rest)
  let (day, rest) ← scanField 1 31 (← scanMark '-' rest)
  let (hour, rest) ← scanField 0 23 (← scanSeparator rest)
  let (minute, rest) ← scanField 0 59 (← scanMark ':' rest)
  let (second, rest) ← scanField 0 60 (← scanMark ':' rest)
  let (nano, rest) ← scanFraction rest
  let (offset, rest) ← scanZone (Text.trimStart rest)
  return ({ year, month, day, hour, minute, second, nano, offset }, rest)

def Instant.read (text : String) : Except ScanFault Instant := do
  let (stamp, rest) ← scanStamp text.toList
  stamp.close (Text.trimStart rest)

/-! ## The strict form -/

def scanExact (width least most : Nat) : Scanner Nat := fun chars => do
  let (n, rest) ← scanNumber width (some width) chars
  return (← within least most n, rest)

def scanStampStrict : Scanner Stamp := fun chars => do
  let (year, rest) ← scanExact 4 0 9999 chars
  let (month, rest) ← scanExact 2 1 12 (← scanChar '-' rest)
  let (day, rest) ← scanExact 2 1 31 (← scanChar '-' rest)
  let (hour, rest) ← scanExact 2 0 23 (← scanSeparator rest)
  let (minute, rest) ← scanExact 2 0 59 (← scanChar ':' rest)
  let (second, rest) ← scanExact 2 0 60 (← scanChar ':' rest)
  let (nano, rest) ← scanFraction rest
  let (offset, rest) ← scanOffset (scanChar ':') rest
  return ({ year, month, day, hour, minute, second, nano, offset }, rest)

def Instant.readStrict (text : String) : Except ScanFault Instant := do
  let (stamp, rest) ← scanStampStrict text.toList
  stamp.close rest

end Heartbeat.Time
