import Heartbeat.Decimal.Fixed
import Heartbeat.Time.Calendar
/-!
# Instants and their texts

An instant is a day, a second of the day and nanoseconds, in universal time. A leap second is the
second before it with more than a thousand million nanoseconds. Its text is that of RFC 3339, with
as few fraction digits as lose nothing, in groups of three.
-/
namespace Heartbeat.Time

def firstDay : Int := Date.toEpochDay ⟨Date.firstYear, 1, 1⟩

def lastDay : Int := Date.toEpochDay ⟨Date.lastYear, 12, 31⟩

structure Instant where
  /-- Days from 1970-01-01. -/
  day : Int
  /-- Seconds from midnight. -/
  second : Nat
  /-- Nanoseconds from the second; those of a leap second go on beyond `10 ^ 9`. -/
  nano : Nat
  firstDay_le : firstDay ≤ day
  day_le : day ≤ lastDay
  second_lt : second < 86400
  nano_lt : nano < 2000000000
  leap : 1000000000 ≤ nano → second % 60 = 59
  deriving DecidableEq, Repr

namespace Instant

/-- The instant of these parts, if there is one. -/
def ofParts? (day : Int) (second nano : Nat) : Option Instant :=
  if h : firstDay ≤ day ∧ day ≤ lastDay ∧ second < 86400 ∧ nano < 2000000000 ∧
      (1000000000 ≤ nano → second % 60 = 59) then
    some ⟨day, second, nano, h.1, h.2.1, h.2.2.1, h.2.2.2.1, h.2.2.2.2⟩
  else none

def epoch : Instant := ⟨0, 0, 0, by decide, by decide, by decide, by decide, by decide⟩

instance : Inhabited Instant := ⟨epoch⟩

def unixNanos (t : Instant) : Int := (t.day * 86400 + t.second) * 1000000000 + t.nano

/-- Whole milliseconds from the start of 1970. -/
def unixMillis (t : Instant) : Int := t.unixNanos / 1000000

/-- A year: four digits, or a sign and as many as it has but no fewer than four. -/
def renderYear (year : Int) : List Char :=
  let size := year.natAbs
  let width := if size < 10000 then 4 else if size < 100000 then 5 else 6
  if 0 ≤ year ∧ year ≤ 9999 then Decimal.digits 4 size
  else (if year < 0 then '-' else '+') :: Decimal.digits width size

/-- The fraction of a second: nothing, or a point and three, six or nine digits. -/
def renderFraction (nano : Nat) : List Char :=
  if nano = 0 then []
  else if nano % 1000000 = 0 then '.' :: Decimal.digits 3 (nano / 1000000)
  else if nano % 1000 = 0 then '.' :: Decimal.digits 6 (nano / 1000)
  else '.' :: Decimal.digits 9 nano

/-- The text of an instant without the mark of its offset. -/
def renderLocal (t : Instant) : List Char :=
  let date := Date.ofEpochDay t.day
  let minutes := t.second / 60
  let (second, nano) :=
    if 1000000000 ≤ t.nano then (t.second % 60 + 1, t.nano - 1000000000) else (t.second % 60, t.nano)
  renderYear date.year ++ '-' :: Decimal.digits 2 date.month ++ '-' :: Decimal.digits 2 date.day ++
    'T' :: Decimal.digits 2 (minutes / 60) ++ ':' :: Decimal.digits 2 (minutes % 60) ++
    ':' :: Decimal.digits 2 second ++ renderFraction nano

/-- The text in messages: universal time is marked by a `Z`. -/
def render (t : Instant) : String := String.ofList (t.renderLocal ++ ['Z'])

/-- The text in the store: universal time is marked by its offset. -/
def renderOffset (t : Instant) : String := String.ofList (t.renderLocal ++ "+00:00".toList)

end Instant
end Heartbeat.Time
