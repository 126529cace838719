import Heartbeat.Archive.Snapshot
import Heartbeat.Services
/-!
# The HTTP interface

One route takes heartbeats, the others show what the daemon knows. The intake answers 200 exactly if it
has put a payload on the topic, and the payload is one that the dispatcher decodes; every other
answer leaves the topic as it was.
-/
namespace Heartbeat.Api

open Json (Value)

structure Incoming where
  method : String
  /-- The path with the query, if there is one. An origin may stand in front. -/
  target : String
  body : Bytes

structure Answer where
  code : Nat
  body : String
  deriving DecidableEq, Repr

def Answer.bare (code : Nat) : Answer := ⟨code, ""⟩

def Answer.ok (value : Value) : Answer := ⟨200, value.render⟩

/-! ## The intake -/

/-- The longest body that the intake reads. -/
def bodyLimit : Nat := 2097152

/-- An answer of the intake, with the status as its code. -/
def reply (code : UInt16) (message : String) : Reply := ⟨code, message⟩

def intake (now : Int64) (body : Bytes) (topic : Topic) : Reply × Topic :=
  match Request.parse body with
  | .error e => (reply 400 ("invalid heartbeat: " ++ e.message), topic)
  | .ok request =>
    if Text.trim request.ip = "" then (reply 400 "invalid heartbeat: empty ip", topic)
    else match topic.publish (Text.encode (request.observedAt now).render) with
      | .ok topic => (reply 200 "OK", topic)
      | .error (.full name) => (reply 503 (PublishFault.full name).message, topic)
      | .error (.unread name) => (reply 500 (PublishFault.unread name).message, topic)

/-! ## What is shown -/

def reportJson (report : SweepReport) : Value :=
  .object [
    ("seen", .ofInt report.seen), ("marked_up", .ofInt report.markedUp),
    ("marked_down", .ofInt report.markedDown), ("finished_at", .text report.finishedAt.render)]

def sweepStatusJson (status : SweepStatus) : Value :=
  .object [
    ("state", .text (if status.sweeping then "reconciling" else "idle")),
    ("last_run", .ofOption reportJson status.lastRun)]

def statsJson (stats : Archive.Stats) : Value :=
  .object [
    ("submitted", .ofInt stats.submitted), ("indexed", .ofInt stats.indexed),
    ("failed", .ofInt stats.failed), ("flushes", .ofInt stats.flushes),
    ("failed_flushes", .ofInt stats.failedFlushes)]

/-! ## Routes -/

inductive Route where
  | intake
  | servers
  | server (segment : String)
  | liveness
  | addressLiveness (segment : String)
  | archiveStats
  deriving DecidableEq, Repr

/-- Whether a character may stand in the name of a scheme. -/
def isSchemeChar (c : Char) : Bool := c.isAlphanum || c == '+' || c == '-' || c == '.'

/-- Whether a character ends the part of a target that names a host. -/
def endsAuthority (c : Char) : Bool := c == '/' || c == '?' || c == '#'

/-- A target without a scheme and a host in front, if it has them. -/
def withoutOrigin (target : List Char) : List Char :=
  match target.dropWhile isSchemeChar with
  | ':' :: '/' :: '/' :: rest => rest.dropWhile fun c => !endsAuthority c
  | _ => target

def path (target : String) : List Char :=
  (withoutOrigin target.toList).takeWhile fun c => c != '?' && c != '#'

/-- The parts of a path between slashes. -/
def segments : List Char → List (List Char)
  | [] => [[]]
  | c :: rest =>
    if c = '/' then [] :: segments rest
    else match segments rest with
      | [] => [[c]]
      | first :: more => (c :: first) :: more

def route? (target : String) : Option Route :=
  match (segments (path target)).map String.ofList with
  | ["", "healthcheck"] => some .intake
  | ["", "v1", "servers"] => some .servers
  | ["", "v1", "servers", segment] => if segment = "" then none else some (.server segment)
  | ["", "v1", "liveness"] => some .liveness
  | ["", "v1", "liveness", segment] => if segment = "" then none else some (.addressLiveness segment)
  | ["", "v1", "archive", "stats"] => some .archiveStats
  | _ => none

def hexValue? (b : UInt8) : Option UInt8 := (Json.hexValue? b).map UInt8.ofNat

/-- Bytes with their percent escapes resolved; what is no escape stays. -/
def percentDecode : Bytes → Bytes
  | 0x25 :: a :: b :: rest =>
    match hexValue? a, hexValue? b with
    | some high, some low => (high * 16 + low) :: percentDecode rest
    | _, _ => 0x25 :: percentDecode (a :: b :: rest)
  | b :: rest => b :: percentDecode rest
  | [] => []

/-- The address that a segment spells, if it is a text. -/
def addressOf (segment : String) : Option String :=
  Text.decode? (percentDecode (Text.encode segment))

/-- The answer to an address that is no text. -/
def badAddress : Answer := ⟨400, "Invalid URL: Invalid UTF-8 in `address`"⟩

def showRoute (route : Route) (s : Services) : Answer × Services :=
  match route with
  | .intake => (.bare 405, s)
  | .servers =>
    match s.list with
    | (.ok records, s) => (.ok (.list (records.map Record.toJson)), s)
    | (.error _, s) => (.bare 500, s)
  | .server segment =>
    match addressOf segment with
    | none => (badAddress, s)
    | some address =>
      match s.find address with
      | (.ok (some record), s) => (.ok record.toJson, s)
      | (.ok none, s) => (.bare 404, s)
      | (.error _, s) => (.bare 500, s)
  | .liveness =>
    (.ok (.object [("window_size", .ofInt s.tracker.size),
      ("reconciler", sweepStatusJson s.sweepStatus)]), s)
  | .addressLiveness segment =>
    match addressOf segment with
    | none => (badAddress, s)
    | some address =>
      (.ok (.object [("address", .text address),
        ("seen", .boolean (s.tracker.contains address))]), s)
  | .archiveStats => (.ok (statsJson s.archive.stats.look), s)

def takeHeartbeat (body : Bytes) (s : Services) : Answer × Services :=
  if bodyLimit < body.length then
    (⟨413, "Failed to buffer the request body: length limit exceeded"⟩, s)
  else
    let (now, s) := s.readClock
    let (reply, topic) := intake (Int64.ofInt now.unixMillis) body s.topic
    (⟨reply.code.toNat, reply.render⟩, { s with topic })

def respond (incoming : Incoming) (s : Services) : Answer × Services :=
  match route? incoming.target with
  | none => (.bare 404, s)
  | some .intake =>
    if incoming.method = "POST" then takeHeartbeat incoming.body s else (.bare 405, s)
  | some route =>
    if incoming.method = "GET" then showRoute route s
    else if incoming.method = "HEAD" then
      let (answer, s) := showRoute route s
      (.bare answer.code, s)
    else (.bare 405, s)

end Heartbeat.Api
