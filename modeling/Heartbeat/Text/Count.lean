import Heartbeat.Decimal.Fixed
/-!
# Counts in texts

A count is written with decimal digits, after a plus sign if there is one, and is below `2 ^ 64`. The
digits are read from the left, so a text with two faults has the one that shows first.
-/
namespace Heartbeat.Text

/-- Why a text is no count. -/
inductive CountFault where
  | empty
  | invalidDigit
  | tooLarge
  deriving DecidableEq, Repr

def CountFault.message : CountFault → String
  | .empty => "cannot parse integer from empty string"
  | .invalidDigit => "invalid digit found in string"
  | .tooLarge => "number too large to fit in target type"

/-- Appends digits to a number that stays below `2 ^ 64`. -/
def appendDigits : Nat → List Char → Except CountFault Nat
  | n, [] => .ok n
  | n, c :: rest =>
    if ¬ Decimal.isDigitChar c then .error .invalidDigit
    else
      let longer := n * 10 + Decimal.charValue c
      if longer < 18446744073709551616 then appendDigits longer rest else .error .tooLarge

/-- Reads a count. -/
def readCount (text : String) : Except CountFault UInt64 :=
  let digits := match text.toList with
    | '+' :: rest => rest
    | chars => chars
  if text.isEmpty then .error .empty
  else if digits.isEmpty then .error .invalidDigit
  else (appendDigits 0 digits).map UInt64.ofNat

end Heartbeat.Text
