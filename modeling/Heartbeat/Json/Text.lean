import Heartbeat.Json.Fault
/-!
# JSON strings

`scanString` runs over the bytes of a string one at a time. Its state says what the last bytes have
begun: nothing, an escape, the digits of a code unit, or the second half of a surrogate pair. The
bytes that the string denotes are gathered in reverse, and have to be UTF-8 when it is closed.
-/
namespace Heartbeat.Json

/-- What the bytes of a string so far have begun. -/
inductive StringState where
  | plain
  | escape
  /-- A code unit, of which these digits are read, last one first. `high` is the first half of a
  pair whose second half it is to be. -/
  | unit (high : Option Nat) (digits : Bytes)
  /-- The first half of a pair: a backslash has to follow. -/
  | pairBackslash (high : Nat)
  /-- The first half of a pair and a backslash: the letter `u` has to follow. -/
  | pairLetter (high : Nat)
  deriving DecidableEq, Repr

def hexValue? (b : UInt8) : Option Nat :=
  if 0x30 ≤ b && b ≤ 0x39 then some (b.toNat - 0x30)
  else if 0x41 ≤ b && b ≤ 0x46 then some (b.toNat - 0x41 + 10)
  else if 0x61 ≤ b && b ≤ 0x66 then some (b.toNat - 0x61 + 10)
  else none

/-- The number that hexadecimal digits spell, last one first. -/
def hexNumber? : Bytes → Option Nat
  | [] => some 0
  | digit :: before => do return (← hexNumber? before) * 16 + (← hexValue? digit)

def escapeByte? (letter : UInt8) : Option UInt8 :=
  if letter = 0x22 ∨ letter = 0x5C ∨ letter = 0x2F then some letter
  else if letter = 0x62 then some 0x08
  else if letter = 0x66 then some 0x0C
  else if letter = 0x6E then some 0x0A
  else if letter = 0x72 then some 0x0D
  else if letter = 0x74 then some 0x09
  else none

/-- The bytes of a code point, last one first. -/
def codePoint (n : Nat) : Bytes := (Text.encode (Char.ofNat n).toString).reverse

/-- What a complete code unit leads to: more bytes of the string and a new state. -/
def closeUnit (high : Option Nat) (unit : Nat) : Except Cause (Bytes × StringState) :=
  match high with
  | none =>
    if 0xDC00 ≤ unit && unit ≤ 0xDFFF then .error .loneSurrogate
    else if 0xD800 ≤ unit && unit ≤ 0xDBFF then .ok ([], .pairBackslash unit)
    else .ok (codePoint unit, .plain)
  | some high =>
    if 0xDC00 ≤ unit && unit ≤ 0xDFFF then
      .ok (codePoint (0x10000 + (high - 0xD800) * 0x400 + (unit - 0xDC00)), .plain)
    else .error .loneSurrogate

/-- Runs over a string's bytes up to its closing quote. -/
def scanString : StringState → Bytes → Reader Bytes
  | _, _, [] => .error (.before .endOfString [])
  | .plain, sofar, b :: rest =>
    if b = 0x22 then .ok (sofar.reverse, rest)
    else if b = 0x5C then scanString .escape sofar rest
    else if b < 0x20 then .error (.before .controlCharacter rest)
    else scanString .plain (b :: sofar) rest
  | .escape, sofar, b :: rest =>
    if b = 0x75 then scanString (.unit none []) sofar rest
    else match escapeByte? b with
      | some denoted => scanString .plain (denoted :: sofar) rest
      | none => .error (.before .invalidEscape rest)
  | .unit high digits, sofar, b :: rest =>
    if digits.length < 3 then scanString (.unit high (b :: digits)) sofar rest
    else match hexNumber? (b :: digits) with
      | none => .error (.before .invalidEscape rest)
      | some unit =>
        match closeUnit high unit with
        | .error cause => .error (.before cause rest)
        | .ok (more, state) => scanString state (more ++ sofar) rest
  | .pairBackslash high, sofar, b :: rest =>
    if b = 0x5C then scanString (.pairLetter high) sofar rest
    else .error (.before .unpairedSurrogate rest)
  | .pairLetter high, sofar, b :: rest =>
    if b = 0x75 then scanString (.unit (some high) []) sofar rest
    else .error (.before .unpairedSurrogate rest)

/-- Reads a string whose opening quote has been read. If what it denotes is not UTF-8, the fault
lies as many bytes before the end of the string as the denoted bytes have from the first on that
starts no character. Where no escape follows that byte in the string, this is right behind it. -/
def stringBody : Reader String := fun text => do
  let (bytes, rest) ← scanString .plain [] text
  match Text.decode? bytes with
  | some value => .ok (value, rest)
  | none =>
    let unread := bytes.length - Text.validLength bytes
    .error (.before .notUnicode (text.drop (text.length - (rest.length + unread))))

end Heartbeat.Json
