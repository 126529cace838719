import Heartbeat.Message
import Heartbeat.Signal
import Heartbeat.Time.Scan
/-!
# Server records

A record is what the registry knows of a monitored server. Two envelopes hold records elsewhere:
the cache keeps a record under the key of its address together with the version of this form, and
the archive keeps it as part of a `Document`, with the numbers of the signal it was resolved for.
-/
namespace Heartbeat

open Json (Value Shape Field Layout)
open Time (Instant)

/-- Whether a server reported itself in the last window. -/
inductive Status where
  | up
  | down
  deriving DecidableEq, Repr, Inhabited

namespace Status

/-- The number in the status column. -/
def toColumn : Status → Int64
  | .up => 1
  | .down => 0

/-- The status that a number in the column stands for: every number but zero is up. -/
def ofColumn (n : Int64) : Status := if n = 0 then .down else .up

@[simp]
theorem ofColumn_toColumn (s : Status) : ofColumn s.toColumn = s := by
  cases s <;> decide

def name : Status → String
  | .up => "up"
  | .down => "down"

def shape : Shape Status := .variant [("up", .up), ("down", .down)]

def toJson (s : Status) : Value := .text s.name

end Status

def instantShape : Shape Instant :=
  .textual "an RFC 3339 formatted date and time string" fun text =>
    (Instant.read text).mapError Time.ScanFault.message

/-- A monitored server. -/
structure Record where
  /-- Given by the store. -/
  id : Int64
  /-- Shown to people; the address, unless somebody chose another one. -/
  name : String
  /-- Where it reports from; no two records share one. -/
  address : String
  status : Status
  createdAt : Instant
  lastUpdated : Instant
  deriving DecidableEq, Repr

namespace Record

structure Draft where
  id : Option Int64 := none
  name : Option String := none
  address : Option String := none
  status : Option Status := none
  createdAt : Option Instant := none
  lastUpdated : Option Instant := none

def layout : Layout Draft Record :=
  { name := "ServerRecord"
    fields := [
      .ofShape "id" .int64 Draft.id fun d id => { d with id := some id },
      .ofShape "name" .text Draft.name fun d name => { d with name := some name },
      .ofShape "address" .text Draft.address fun d address => { d with address := some address },
      .ofShape "status" Status.shape Draft.status fun d status => { d with status := some status },
      .ofShape "created_at" instantShape Draft.createdAt fun d t => { d with createdAt := some t },
      .ofShape "last_updated" instantShape Draft.lastUpdated fun d t => { d with lastUpdated := some t }]
    empty := {}
    build := fun d => do
      return {
        id := ← required "id" d.id
        name := ← required "name" d.name
        address := ← required "address" d.address
        status := ← required "status" d.status
        createdAt := ← required "created_at" d.createdAt
        lastUpdated := ← required "last_updated" d.lastUpdated } }

def shape : Shape Record := layout.shape

def parse (text : Bytes) : Except Json.ReadError Record := shape.parse text

def toJson (r : Record) : Value :=
  .object [
    ("id", .ofInt64 r.id), ("name", .text r.name), ("address", .text r.address),
    ("status", r.status.toJson), ("created_at", .text r.createdAt.render),
    ("last_updated", .text r.lastUpdated.render)]

def render (r : Record) : String := r.toJson.render

end Record

/-! ## In the cache -/

/-- The key under which the cache keeps the record of an address. -/
def cacheKey (address : String) : String := "server:" ++ address

/-- A record as the cache keeps it. -/
structure Envelope where
  /-- Which form the record is in. -/
  version : UInt32
  record : Record
  deriving DecidableEq, Repr

namespace Envelope

def currentVersion : UInt32 := 1

structure Draft where
  version : Option UInt32 := none
  record : Option Record := none

def layout : Layout Draft Envelope :=
  { name := "CachedRecord"
    fields := [
      .ofShape "v" .uint32 Draft.version fun d version => { d with version := some version },
      .ofShape "record" Record.shape Draft.record fun d record => { d with record := some record }]
    empty := {}
    build := fun d => do
      return {
        version := ← required "v" d.version
        record := ← required "record" d.record } }

def toJson (e : Envelope) : Value :=
  .object [("v", .ofInt e.version.toNat), ("record", e.record.toJson)]

end Envelope

namespace Record

/-- The text that the cache keeps of a record. -/
def encodeCached (r : Record) : String := (Envelope.toJson ⟨Envelope.currentVersion, r⟩).render

/-- The record of a text in the cache; none if it cannot be read or has another version. -/
def decodeCached? (text : String) : Option Record :=
  match Envelope.layout.shape.parse (Text.encode text) with
  | .ok envelope => if envelope.version = Envelope.currentVersion then some envelope.record else none
  | .error _ => none

end Record

/-! ## In the archive -/

/-- What is archived of one signal: the record at that time, and the signal's numbers. -/
structure Document where
  server : Record
  observedAt : Int64
  duration : Int64
  deriving DecidableEq, Repr

namespace Document

/-- The document of a signal that was resolved to a record. -/
def ofSignal (server : Record) (signal : Signal) : Document :=
  ⟨server, signal.observedAt, signal.duration⟩

structure Draft where
  server : Option Record := none
  observedAt : Option Int64 := none
  duration : Option Int64 := none

def layout : Layout Draft Document :=
  { name := "ArchiveDocument"
    fields := [
      .ofShape "server" Record.shape Draft.server fun d server => { d with server := some server },
      .ofShape "observed_at_millis" .int64 Draft.observedAt fun d n => { d with observedAt := some n },
      .ofShape "duration_seconds" .int64 Draft.duration fun d n => { d with duration := some n }]
    empty := {}
    build := fun d => do
      return {
        server := ← required "server" d.server
        observedAt := ← required "observed_at_millis" d.observedAt
        duration := ← required "duration_seconds" d.duration } }

def shape : Shape Document := layout.shape

def toJson (d : Document) : Value :=
  .object [
    ("server", d.server.toJson), ("observed_at_millis", .ofInt64 d.observedAt),
    ("duration_seconds", .ofInt64 d.duration)]

def render (d : Document) : String := d.toJson.render

end Document
end Heartbeat
