import Heartbeat.Json.Number
/-!
# JSON values

A value as a whole, where its kind is not known beforehand. The members of an object that was read
are in the order of their names, one per name; those of an object that is to be written stand in
the order in which they are written.
-/
namespace Heartbeat.Json

inductive Value where
  | null
  | boolean (value : Bool)
  | number (value : Number)
  | text (value : String)
  | list (items : List Value)
  | object (members : List (String × Value))
  deriving Repr, Inhabited

/-- Puts a member into its place by name; one of that name is replaced. -/
def insertMember (name : String) (value : α) : List (String × α) → List (String × α)
  | [] => [(name, value)]
  | (other, held) :: rest =>
    if name = other then (name, value) :: rest
    else if name < other then (name, value) :: (other, held) :: rest
    else (other, held) :: insertMember name value rest

namespace Value

def ofInt (n : Int) : Value := .number (.integer n)

def ofOption (f : α → Value) : Option α → Value
  | none => .null
  | some a => f a

def found : Value → Found
  | .null => .null
  | .boolean value => .boolean value
  | .number n => n.found
  | .text value => .text value
  | .list _ => .list
  | .object _ => .object

def member? (name : String) : Value → Option Value
  | .object members => members.lookup name
  | _ => none

def text? : Value → Option String
  | .text value => some value
  | _ => none

def int? : Value → Option Int
  | .number (.integer value) => some value
  | _ => none

def boolean? : Value → Option Bool
  | .boolean value => some value
  | _ => none

def items? : Value → Option (List Value)
  | .list items => some items
  | _ => none

end Value
end Heartbeat.Json
