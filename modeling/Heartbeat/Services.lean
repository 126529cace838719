import Heartbeat.Archive.Writer
import Heartbeat.Process
import Heartbeat.Store.Database
import Heartbeat.Sweep
import Heartbeat.Topic
/-!
# The services of one daemon

Everything that the tasks of a daemon share: the tracker, the store, the cache, the topic, the archive
and the clock. The clock gives a later instant at every reading. Calls to the store can be
disturbed by others: a `Disturbance` is what happens right before a call, or instead of it.
-/
namespace Heartbeat

open Time (Instant)

inductive StoreCall where
  | find
  | create
  | setStatus
  | list
  deriving DecidableEq, Repr

/-- What disturbs a call to the store. -/
inductive Disturbance where
  | none
  /-- The call fails: nobody serves the store. -/
  | unavailable
  /-- The call fails: its address is taken. -/
  | conflict
  /-- Somebody else creates a record for the address of the call first. -/
  | rival
  /-- A signal from an address arrives first. -/
  | mark (address : String)
  deriving DecidableEq, Repr

/-- What the tasks of a daemon share. -/
structure Services where
  tracker : Tracker := {}
  database : Store.Database
  /-- Disturbances still to come, each for the next call of its kind. -/
  disturbances : List (StoreCall × Disturbance) := []
  cache : Cache.Memory
  /-- Whether reads and writes of the cache fail. -/
  cacheReadFails : Bool := false
  cacheWriteFails : Bool := false
  topic : Topic
  archive : Archive.Writer
  /-- What the index does with bulk calls. -/
  index : Archive.Writer.IndexBehaviour
  sweepStatus : SweepStatus := {}
  /-- The instant of each reading of the clock. -/
  clock : Nat → Instant
  readings : Nat := 0
  /-- The id of each document. -/
  documentId : Nat → String
  documents : Nat := 0
  /-- The time of timers, in milliseconds from the start. -/
  now : Nat := 0
  /-- The time of the cache, in milliseconds from the start. -/
  cacheTime : Nat := 0

namespace Services

def readClock (s : Services) : Instant × Services :=
  (s.clock s.readings, { s with readings := s.readings + 1 })

/-- Takes the first entry for a call out of a list. -/
def takeFirst (call : StoreCall) :
    List (StoreCall × Disturbance) → Disturbance × List (StoreCall × Disturbance)
  | [] => (.none, [])
  | (other, disturbance) :: rest =>
    if other = call then (disturbance, rest)
    else
      let (found, rest) := takeFirst call rest
      (found, (other, disturbance) :: rest)

/-- What disturbs a call with the given address has its effect; the call's own fault, if any. -/
def disturb (call : StoreCall) (address : String) (s : Services) : Option Store.Fault × Services :=
  let (disturbance, disturbances) := takeFirst call s.disturbances
  let s := { s with disturbances }
  match disturbance with
  | .none => (none, s)
  | .unavailable => (some .unavailable, s)
  | .conflict => (some (.conflict address), s)
  | .rival =>
    let (now, s) := s.readClock
    (none, { s with database := (s.database.create now "rival" address .down).2 })
  | .mark marked => (none, { s with tracker := s.tracker.mark marked })

def find (address : String) (s : Services) : Except Store.Fault (Option Record) × Services :=
  match s.disturb .find address with
  | (some fault, s) => (.error fault, s)
  | (none, s) =>
    let (result, database) := s.database.find address
    (result, { s with database })

def create (name address : String) (status : Status) (s : Services) :
    Except Store.Fault Record × Services :=
  match s.disturb .create address with
  | (some fault, s) => (.error fault, s)
  | (none, s) =>
    let (now, s) := s.readClock
    let (result, database) := s.database.create now name address status
    (result, { s with database })

def setStatus (addresses : List String) (membership : Store.Membership) (status : Status)
    (s : Services) : Except Store.Fault Nat × Services :=
  match s.disturb .setStatus "" with
  | (some fault, s) => (.error fault, s)
  | (none, s) =>
    let (now, s) := s.readClock
    let (result, database) := s.database.setStatus now addresses membership status
    (result, { s with database })

def list (s : Services) : Except Store.Fault (List Record) × Services :=
  match s.disturb .list "" with
  | (some fault, s) => (.error fault, s)
  | (none, s) =>
    let (result, database) := s.database.list
    (result, { s with database })

def cacheGet (key : String) (s : Services) : Except Cache.Fault (Option String) × Services :=
  (if s.cacheReadFails then .error .backend else .ok (s.cache.get? s.cacheTime key), s)

def cacheSet (key value : String) (s : Services) : Except Cache.Fault Unit × Services :=
  if s.cacheWriteFails then (.error .backend, s)
  else (.ok (), { s with cache := s.cache.set s.cacheTime key value })

/-- Queues a document for the archive under a fresh id. -/
def enqueue (document : Document) (s : Services) : Option String × Services :=
  let id := s.documentId s.documents
  match s.archive.enqueue? ⟨id, document⟩ with
  | some archive => (some id, { s with archive, documents := s.documents + 1 })
  | none => (none, s)

def backend : Backend Services :=
  { isSeen := fun address s => s.tracker.contains address
    addSeen := fun address s => { s with tracker := s.tracker.insert address }
    takeWindow := fun s => (s.tracker.take.1, { s with tracker := s.tracker.take.2 })
    cacheGet
    cacheSet
    find
    create
    setStatus
    readClock
    enqueue
    countDocument := fun s => { s with archive := s.archive.count } }

/-! ## What the tasks do -/

def resolve (address : String) (s : Services) : Except ResolveFault Resolved × Services :=
  Heartbeat.resolve backend address s

def process (signal : Signal) (s : Services) : Except ProcessFault Processed × Services :=
  Heartbeat.process backend signal s

def sweep (s : Services) : Except Store.Fault SweepReport × Services :=
  let (result, sweepStatus, s) := Heartbeat.sweep backend s.sweepStatus s
  (result, { s with sweepStatus })

/-- Writes the stored record of an address into the cache; none if there is no record. -/
def recache (address : String) (s : Services) :
    Except Store.Fault (Option (Except Cache.Fault Unit)) × Services :=
  match s.database.find address with
  | (.error fault, database) => (.error fault, { s with database })
  | (.ok none, database) => (.ok none, { s with database })
  | (.ok (some record), database) =>
    let (result, s) := cacheRecord backend record { s with database }
    (.ok (some result), s)

/-- Runs the archive until it has to wait. -/
def settleArchive (s : Services) : Services := { s with archive := s.archive.settle s.index s.now }

/-- Closes the archive and waits for its end, for which time goes on. -/
def closeArchive (s : Services) : Services :=
  let (now, archive) := s.archive.shutdown s.index s.now
  { s with now, archive }

/-- Lets time pass, and then everything run that can. -/
def advance (millis : Nat) (s : Services) : Services := settleArchive { s with now := s.now + millis }

/-- Publishes payloads, one after another. -/
def publish : List Bytes → Services → List (Except PublishFault Unit) × Services
  | [], s => ([], s)
  | payload :: rest, s =>
    match s.topic.publish payload with
    | .ok topic =>
      let (results, s) := publish rest { s with topic }
      (.ok () :: results, s)
    | .error fault =>
      let (results, s) := publish rest s
      (.error fault :: results, s)

def receive (s : Services) : Received × Services :=
  let (received, topic) := s.topic.receive
  (received, { s with topic })

end Services
end Heartbeat
