import Heartbeat.Decimal.Binary64
import Heartbeat.Time.Calendar
/-!
# What a TOML document denotes

A document is a table: values by name. How a table was written, with a header, with dotted keys or
in braces, makes no difference to what it denotes.
-/
namespace Heartbeat.Toml

/-- A time of day. Second 60 is a leap second. -/
structure TimeOfDay where
  hour : Nat
  minute : Nat
  second : Nat
  nano : Nat
  deriving DecidableEq, Repr

/-- A date, a time of day, or both, and then perhaps with an offset in minutes. -/
structure Moment where
  date : Option Time.Date
  time : Option TimeOfDay
  offset : Option Int
  deriving DecidableEq, Repr

/-- A number that was written with a fraction or an exponent, or as a word. -/
inductive Real where
  | finite (value : Decimal.Binary64)
  | infinite (negative : Bool)
  | notNumber
  deriving DecidableEq, Repr

inductive Value where
  | text (value : String)
  | integer (value : Int64)
  | real (value : Real)
  | boolean (value : Bool)
  | moment (value : Moment)
  | list (items : List Value)
  | table (entries : List (String × Value))
  deriving Repr, Inhabited

/-- The entries of a table: values by name, each name once. -/
abbrev Entries := List (String × Value)

/-- The name of an entry, with the names of the tables that lead to it. -/
structure Key where
  path : List String
  name : String
  deriving DecidableEq, Repr

end Heartbeat.Toml
