import Heartbeat.Store.Table
/-!
# The database

A database is a connection to the table, which can be gone: then every call fails in its own way
until the database is opened again. A bulk status update is a transaction of several statements,
each of which can fail; the addresses are loaded into a temporary table first, and a transaction
that does not reach its end leaves no trace.
-/
namespace Heartbeat.Store

open Time (Instant)

structure Database where
  /-- The table of servers, unless it is gone. -/
  table : Option Table := some {}
  /-- The addresses in the temporary table of status updates. -/
  window : List String := []
  /-- Whether a call has already met a table that is gone. -/
  noticed : Bool := false
  /-- Whether the table is kept in a file. -/
  durable : Bool := true
  deriving DecidableEq, Repr

namespace Database

def touched (db : Database) : Database := { db with noticed := db.table.isNone }

def create (db : Database) (now : Instant) (name address : String) (status : Status) :
    Except Fault Record × Database :=
  match db.table with
  | none => (.error (.database .createServer), db.touched)
  | some table => match table.create now name address status with
    | .ok (record, table) => (.ok record, { db with table := some table })
    | .error fault => (.error fault, db)

def find (db : Database) (address : String) : Except Fault (Option Record) × Database :=
  match db.table with
  | none => (.error (.database .queryServer), db.touched)
  | some table => (table.find address, db)

/-- Lists all servers. A connection that has not noticed that the table is gone fails later than
one that has. -/
def list (db : Database) : Except Fault (List Record) × Database :=
  match db.table with
  | none =>
    (.error (.database (if db.noticed then .prepareQuery else .collectServers)), db.touched)
  | some table => (table.list, db)

/-! ## Status updates -/

inductive Statement where
  | begin
  /-- Makes the temporary table, or empties it. -/
  | prepareSet
  | prepareInsert
  | load (address : String)
  | update
  | clear
  | commit
  deriving DecidableEq, Repr

def Statement.activity : Statement → Activity
  | .begin => .beginTransaction
  | .prepareSet => .prepareAddressSet
  | .prepareInsert => .prepareAddressInsert
  | .load _ => .loadAddressSet
  | .update => .updateStatus
  | .clear => .clearAddressSet
  | .commit => .commitUpdate

/-- The statements of an update for a list of addresses. -/
def statements (addresses : List String) : List Statement :=
  [.begin, .prepareSet, .prepareInsert] ++ addresses.map .load ++ [.update, .clear, .commit]

/-- The effect of a statement inside a transaction, with the count of rows written so far; none if
it cannot be carried out. -/
def execute (now : Instant) (membership : Membership) (status : Status) :
    Statement → Nat × Database → Option (Nat × Database)
  | .begin, s | .prepareInsert, s | .commit, s => some s
  | .prepareSet, (count, db) | .clear, (count, db) => some (count, { db with window := [] })
  | .load address, (count, db) =>
    some (count, if db.window.contains address then db else { db with window := address :: db.window })
  | .update, (_, db) => do
    let (count, table) := (← db.table).update now db.window membership status
    return (count, { db with table := some table })

/-- Runs statements, the one that the number counts among them first, up to the one that fails. -/
def runStatements (now : Instant) (membership : Membership) (status : Status) (fails : Nat → Bool) :
    Nat → List Statement → Nat × Database → Except Activity (Nat × Database)
  | _, [], s => .ok s
  | index, statement :: rest, s =>
    if fails index then .error statement.activity
    else match execute now membership status statement s with
      | none => .error statement.activity
      | some s => runStatements now membership status fails (index + 1) rest s

/-- A bulk status update of which the statements at the given places fail. What was done before is
taken back. -/
def setStatusFailing (fails : Nat → Bool) (db : Database) (now : Instant) (addresses : List String)
    (membership : Membership) (status : Status) : Except Fault Nat × Database :=
  match runStatements now membership status fails 0 (statements addresses) (0, db) with
  | .ok (count, db) => (.ok count, db)
  | .error activity => (.error (.database activity), db.touched)

/-- A bulk status update: how many rows were written. -/
def setStatus (db : Database) (now : Instant) (addresses : List String) (membership : Membership)
    (status : Status) : Except Fault Nat × Database :=
  setStatusFailing (fun _ => false) db now addresses membership status

/-! ## Opening and losing the table -/

/-- What lies where a database is to be opened. -/
inductive Location where
  /-- No file: the database lives in memory. -/
  | memory
  /-- Nothing yet, and the directories can be made. -/
  | missing
  | emptyFile
  /-- A file stands where a directory is needed. -/
  | blockedParent
  | directory
  /-- A file that is no database. -/
  | foreignFile
  deriving DecidableEq, Repr

/-- Opens or creates the database at a location. -/
def openAt : Location → Except Fault Database
  | .memory => .ok { durable := false }
  | .missing | .emptyFile => .ok {}
  | .blockedParent => .error .directory
  | .directory => .error (.database .openDatabase)
  | .foreignFile => .error (.database .enableWriteAhead)

/-- The database opened once more: a table that is gone, or was never in a file, is made anew. -/
def reopen (db : Database) : Database :=
  { table := some (if db.durable then db.table.getD {} else {}), durable := db.durable }

/-- The database after somebody else dropped the table. -/
def dropTable (db : Database) : Database := { db with table := none, noticed := false }

/-- The database after somebody else wrote a row; none if that was refused. -/
def insertRow (db : Database) (id name address status createdAt updatedAt : Option Cell) :
    Option Database := do
  let table ← (← db.table).addForeign id name address status createdAt updatedAt
  return { db with table := some table }

end Database
end Heartbeat.Store
