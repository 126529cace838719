import Heartbeat.Record
import Heartbeat.Store.Cell
import Heartbeat.Store.Fault
/-!
# The table of servers

Rows stand in the order of their ids, and no two share an id or an address. Ids are given in
ascending order and never again: a new row gets one more than the largest id ever used. Instants
are kept as texts, so a row that somebody else wrote need not be readable as a record.
-/
namespace Heartbeat.Store

open Time (Instant)

structure Row where
  id : Int64
  name : String
  address : String
  status : Cell
  createdAt : String
  updatedAt : String
  deriving DecidableEq, Repr

/-- The record that a row spells, if it does. -/
def Row.record? (row : Row) : Option Record :=
  match row.status, Instant.readStrict row.createdAt, Instant.readStrict row.updatedAt with
  | .integer n, .ok createdAt, .ok lastUpdated =>
    some { id := row.id, name := row.name, address := row.address, status := .ofColumn n,
           createdAt, lastUpdated }
  | _, _, _ => none

/-- Which rows a status update is for, relative to a set of addresses. -/
inductive Membership where
  | inside
  | outside
  deriving DecidableEq, Repr

/-- Whether an address is selected. -/
def Membership.selects (m : Membership) (addresses : List String) (address : String) : Bool :=
  match m with
  | .inside => addresses.contains address
  | .outside => !addresses.contains address

structure Table where
  /-- In ascending order of ids. -/
  rows : List Row := []
  /-- The largest id ever used, and zero if there was none above. -/
  lastId : Int64 := 0
  deriving DecidableEq, Repr

namespace Table

def row? (t : Table) (address : String) : Option Row := t.rows.find? (·.address == address)

def taken (t : Table) (address : String) : Bool := t.rows.any (·.address == address)

/-- Puts a row into its place by id. -/
def insertById (row : Row) : List Row → List Row
  | [] => [row]
  | other :: rest => if row.id < other.id then row :: other :: rest else other :: insertById row rest

/-- The table with one more row, which nothing there contradicts. -/
def add (t : Table) (row : Row) : Table :=
  ⟨insertById row t.rows, if t.lastId < row.id then row.id else t.lastId⟩

/-- The row that a new server gets. -/
def newRow (t : Table) (now : Instant) (name address : String) (status : Status) : Row :=
  { id := t.lastId + 1, name, address, status := .integer status.toColumn,
    createdAt := now.renderOffset, updatedAt := now.renderOffset }

def create (t : Table) (now : Instant) (name address : String) (status : Status) :
    Except Fault (Record × Table) :=
  if t.lastId = Int64.maxValue then .error (.database .createServer)
  else if t.taken address then .error (.conflict address)
  else
    let row := t.newRow now name address status
    .ok (⟨row.id, name, address, status, now, now⟩, t.add row)

def find (t : Table) (address : String) : Except Fault (Option Record) :=
  match t.row? address with
  | none => .ok none
  | some row => match row.record? with
    | some record => .ok (some record)
    | none => .error (.database .queryServer)

/-- All records, in the order of ids. -/
def list (t : Table) : Except Fault (List Record) :=
  match t.rows.mapM Row.record? with
  | some records => .ok records
  | none => .error (.database .collectServers)

/-- Whether a status update writes the row: it is selected and holds something else. -/
def writes (addresses : List String) (membership : Membership) (status : Status) (row : Row) : Bool :=
  row.status != .integer status.toColumn && membership.selects addresses row.address

def written (now : Instant) (status : Status) (row : Row) : Row :=
  { row with status := .integer status.toColumn, updatedAt := now.renderOffset }

/-- Writes a status to the selected rows that hold another one; also how many those are. -/
def update (t : Table) (now : Instant) (addresses : List String) (membership : Membership)
    (status : Status) : Nat × Table :=
  let writes := writes addresses membership status
  (t.rows.countP writes,
    { t with rows := t.rows.map fun row => if writes row then written now status row else row })

/-- The id of a row that is added with the given one, or with the next if none is given. -/
def idFor? (t : Table) (given : Option Cell) : Option Int64 :=
  match given with
  | some cell => cell.id?
  | none => if t.lastId = Int64.maxValue then none else some (t.lastId + 1)

/-- Adds a row as another program writes it; every column but the id needs a value. Nothing is
written if the id is no integer, if it or the address is taken, or if there is no next id to give. -/
def addForeign (t : Table) (id name address status createdAt updatedAt : Option Cell) :
    Option Table := do
  let id ← t.idFor? id
  let row : Row := {
    id
    name := (← name).toText
    address := (← address).toText
    status := (← status).toInteger
    createdAt := (← createdAt).toText
    updatedAt := (← updatedAt).toText }
  if t.taken row.address || t.rows.any (·.id == id) then none else some (t.add row)

end Table
end Heartbeat.Store
