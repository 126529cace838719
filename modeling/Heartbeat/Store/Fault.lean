/-!
# What can go wrong with the store

A fault of the database is known by what was being done, not by what the database said.
-/
namespace Heartbeat.Store

/-- What was being done when the database failed. -/
inductive Activity where
  | openDatabase
  | setBusyTimeout
  | enableWriteAhead
  | createSchema
  | createServer
  | queryServer
  | prepareQuery
  | queryServers
  | collectServers
  | beginTransaction
  | prepareAddressSet
  | prepareAddressInsert
  | loadAddressSet
  | updateStatus
  | clearAddressSet
  | commitUpdate
  deriving DecidableEq, Repr

def Activity.failure : Activity → String
  | .openDatabase => "Failed to open database"
  | .setBusyTimeout => "Failed to set busy timeout"
  | .enableWriteAhead => "Failed to enable WAL mode"
  | .createSchema => "Failed to create database schema"
  | .createServer => "Failed to create server"
  | .queryServer => "Failed to query server"
  | .prepareQuery => "Failed to prepare query"
  | .queryServers => "Failed to query servers"
  | .collectServers => "Failed to collect servers"
  | .beginTransaction => "Failed to begin transaction"
  | .prepareAddressSet => "Failed to prepare address set"
  | .prepareAddressInsert => "Failed to prepare address insert"
  | .loadAddressSet => "Failed to load address set"
  | .updateStatus => "Failed to update server status"
  | .clearAddressSet => "Failed to clear address set"
  | .commitUpdate => "Failed to commit status update"

/-- Why the store did not do what it was asked. -/
inductive Fault where
  | conflict (address : String)
  | database (activity : Activity)
  /-- The directory of the database could not be made. -/
  | directory
  /-- Nobody serves the store any more. -/
  | unavailable
  deriving DecidableEq, Repr

def Fault.message : Fault → String
  | .conflict address => "server with address " ++ address ++ " already exists"
  | .database activity => activity.failure
  | .directory => "failed to create database directory"
  | .unavailable => "store thread is not running"

end Heartbeat.Store
