import Heartbeat.Json.Integers
import Heartbeat.Json.Writer
/-!
# Heartbeats on the wire

A host reports itself with a `Request` to the intake, which stamps it and publishes a `Message`
on the topic. The intake's answer is a `Reply`.
-/
namespace Heartbeat

open Json (Value Shape Field Layout)

/-- A heartbeat as it travels on the topic. -/
structure Message where
  ip : String
  /-- When it was observed, in milliseconds from the start of 1970. -/
  time : Int64
  /-- How long the host has been reachable, in seconds. -/
  duration : Int64
  deriving DecidableEq, Repr

/-- A heartbeat as a host sends it. A time that it brings is not used. -/
structure Request where
  ip : String
  duration : Int64
  time : Option Int64
  deriving DecidableEq, Repr

structure Reply where
  code : UInt16
  message : String
  deriving DecidableEq, Repr

/-- The value of a field that has to be there, or its name. -/
def required (name : String) : Option α → Except String α
  | some a => .ok a
  | none => .error name

namespace Message

structure Draft where
  ip : Option String := none
  time : Option Int64 := none
  duration : Option Int64 := none

def layout : Layout Draft Message :=
  { name := "HeartbeatMessage"
    fields := [
      .ofShape "ip" .text Draft.ip fun d ip => { d with ip := some ip },
      .ofShape "time" .int64 Draft.time fun d time => { d with time := some time },
      .ofShape "duration" .int64 Draft.duration fun d duration => { d with duration := some duration }]
    empty := {}
    build := fun d => do
      return {
        ip := ← required "ip" d.ip
        time := ← required "time" d.time
        duration := ← required "duration" d.duration } }

def parse (payload : Bytes) : Except Json.ReadError Message := layout.shape.parse payload

def toJson (m : Message) : Value :=
  .object [("ip", .text m.ip), ("time", .ofInt64 m.time), ("duration", .ofInt64 m.duration)]

def render (m : Message) : String := m.toJson.render

end Message

namespace Request

structure Draft where
  ip : Option String := none
  duration : Option Int64 := none
  /-- What the time was read as, which may be that there is none. -/
  time : Option (Option Int64) := none

def layout : Layout Draft Request :=
  { name := "HeartbeatRequest"
    fields := [
      .ofShape "ip" .text Draft.ip fun d ip => { d with ip := some ip },
      .ofShape "duration" .int64 Draft.duration fun d duration => { d with duration := some duration },
      .defaulted <|
        .ofShape "time" (.optional .int64) Draft.time fun d time => { d with time := some time }]
    empty := {}
    build := fun d => do
      return {
        ip := ← required "ip" d.ip
        duration := ← required "duration" d.duration
        time := d.time.getD none } }

def parse (body : Bytes) : Except Json.ReadError Request := layout.shape.parse body

/-- The request as a value, with a member for the time only if there is one. -/
def toJson (r : Request) : Value :=
  .object ([("ip", .text r.ip), ("duration", .ofInt64 r.duration)] ++
    (r.time.map fun time => ("time", Value.ofInt64 time)).toList)

def render (r : Request) : String := r.toJson.render

/-- The message that a request becomes when it is observed. -/
def observedAt (r : Request) (now : Int64) : Message := ⟨r.ip, now, r.duration⟩

end Request

namespace Reply

structure Draft where
  code : Option UInt16 := none
  message : Option String := none

def layout : Layout Draft Reply :=
  { name := "IntakeResponse"
    fields := [
      .ofShape "code" .uint16 Draft.code fun d code => { d with code := some code },
      .ofShape "message" .text Draft.message fun d message => { d with message := some message }]
    empty := {}
    build := fun d => do
      return {
        code := ← required "code" d.code
        message := ← required "message" d.message } }

def parse (body : Bytes) : Except Json.ReadError Reply := layout.shape.parse body

def toJson (r : Reply) : Value :=
  .object [("code", .ofInt r.code.toNat), ("message", .text r.message)]

def render (r : Reply) : String := r.toJson.render

end Reply
end Heartbeat
