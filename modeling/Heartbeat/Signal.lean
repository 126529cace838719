import Heartbeat.Message
import Heartbeat.Text.Blank
/-!
# Signals

A signal is a heartbeat that the daemon acts on: its address has no blanks at either end and is not
empty. Everything behind the dispatcher sees signals only.
-/
namespace Heartbeat

/-- One decoded heartbeat. -/
structure Signal where
  address : String
  /-- When it was observed, in milliseconds from the start of 1970. -/
  observedAt : Int64
  /-- How long the host has been reachable, in seconds. -/
  duration : Int64
  deriving DecidableEq, Repr

/-- Why a payload is no signal. -/
inductive DecodeFault where
  | malformed (error : Json.ReadError)
  | emptyAddress
  deriving DecidableEq, Repr

def DecodeFault.message : DecodeFault → String
  | .malformed error => "malformed heartbeat payload: " ++ error.message
  | .emptyAddress => "heartbeat has an empty address"

namespace Signal

def ofMessage (m : Message) : Except DecodeFault Signal :=
  let address := Text.trim m.ip
  if address = "" then .error .emptyAddress else .ok ⟨address, m.time, m.duration⟩

def decode (payload : Bytes) : Except DecodeFault Signal := do
  ofMessage (← (Message.parse payload).mapError .malformed)

def toMessage (s : Signal) : Message := ⟨s.address, s.observedAt, s.duration⟩

end Signal
end Heartbeat
