import Heartbeat.Time.Scan
import Heartbeat.Toml.Blank
import Heartbeat.Toml.Value
/-!
# Dates and times in a document

A date, a time of day, or a date and a time with `T` or a blank between them, and then perhaps an
offset. All numbers have as many digits as their form shows; a fraction has one or more, of which
nine count.
-/
namespace Heartbeat.Toml

def number (count : Nat) : Reader Nat := fun chars => (Time.scanNumber count (some count) chars).toOption

/-- Reads a number of so many digits after a mark. -/
def marked? (mark : Char) (count : Nat) : Reader Nat
  | [] => none
  | c :: rest => if c = mark then number count rest else none

def date? : Reader Time.Date := fun chars => do
  let (year, rest) ← number 4 chars
  let (month, rest) ← marked? '-' 2 rest
  let (day, rest) ← marked? '-' 2 rest
  let date : Time.Date := ⟨year, month, day⟩
  if date.isValid then some (date, rest) else none

def timeOfDay? : Reader TimeOfDay := fun chars => do
  let (hour, rest) ← number 2 chars
  let (minute, rest) ← marked? ':' 2 rest
  let (second, rest) ← marked? ':' 2 rest
  let (nano, rest) ← (Time.scanFraction rest).toOption
  if hour < 24 ∧ minute < 60 ∧ second ≤ 60 then some (⟨hour, minute, second, nano⟩, rest) else none

def offset? : Reader Int := fun chars =>
  match chars with
  | [] => none
  | sign :: rest =>
    if sign = 'Z' ∨ sign = 'z' then some (0, rest)
    else if sign = '+' ∨ sign = '-' then do
      let (hours, rest) ← number 2 rest
      let (minutes, rest) ← marked? ':' 2 rest
      let ahead : Int := hours * 60 + minutes
      if hours < 24 ∧ minutes < 60 then some (if sign = '-' then -ahead else ahead, rest) else none
    else none

/-- Reads the time that follows a date, if one does. -/
def timeAfterDate? : Reader TimeOfDay
  | [] => none
  | c :: rest => if c = 'T' ∨ c = 't' ∨ c = ' ' then timeOfDay? rest else none

/-- Reads a date or a time, if one starts here. -/
def moment? : Reader Moment := fun chars =>
  match date? chars with
  | some (date, rest) =>
    match timeAfterDate? rest with
    | some (time, rest) =>
      match offset? rest with
      | some (offset, rest) => some (⟨some date, some time, some offset⟩, rest)
      | none => some (⟨some date, some time, none⟩, rest)
    | none => some (⟨some date, none, none⟩, rest)
  | none => (timeOfDay? chars).map fun (time, rest) => (⟨none, some time, none⟩, rest)

end Heartbeat.Toml
