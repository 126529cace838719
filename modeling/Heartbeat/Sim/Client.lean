import Heartbeat.Http.Exchange
import Heartbeat.Sim.Hosts
import Heartbeat.Sim.Options
/-!
# Sending heartbeats

The simulator posts each heartbeat to the intake and reads the reply. Heartbeats of one tick are sent
independently: none depends on what became of another.
-/
namespace Heartbeat.Sim

/-- Why a heartbeat was not accepted. -/
inductive SendFault where
  | unsent
  | refused (code : Nat) (body : String)
  | garbled
  deriving DecidableEq, Repr

def SendFault.message : SendFault → String
  | .unsent => "heartbeat request failed"
  | .refused code body => "intake returned " ++ Http.statusLine code ++ ": " ++ body
  | .garbled => "invalid intake response"

/-- The request that carries a heartbeat to the intake. -/
def heartbeatRequest (request : Request) : Http.Outgoing :=
  { method := "POST", path := "/healthcheck", contentType := some "application/json",
    body := request.render }

/-- What the simulator learns from the outcome of a request. -/
def readReply (outcome : Http.Outcome) : Except SendFault Reply :=
  match outcome with
  | .unreachable | .timedOut => .error .unsent
  | .replied code body =>
    if Http.isSuccess code then (Reply.parse body).mapError fun _ => .garbled
    else .error (.refused code (Text.decodeLossy body))

/-- Sends a heartbeat; `send` carries the request. -/
def sendHeartbeat (send : Http.Outgoing → Http.Outcome) (request : Request) :
    Except SendFault Reply := readReply (send (heartbeatRequest request))

/-- Sends the heartbeats of one tick; `send` carries the request of the given number. -/
def sendTick (send : Nat → Http.Outgoing → Http.Outcome) (picks : List UInt32)
    (intervalSecs : UInt64) : List (String × Except SendFault Reply) :=
  (tickRequests picks intervalSecs).mapIdx fun i request => (request.ip, sendHeartbeat (send i) request)

/-- One tick of a simulator: hosts are picked, and a heartbeat is sent for each. None if the hosts cannot
be picked; the simulator has ended then. -/
def Options.tick? (o : Options) (draw : Nat → UInt32) (send : Nat → Http.Outgoing → Http.Outcome) :
    Option (List (String × Except SendFault Reply)) :=
  (pickHosts? o.perTick.toNat draw).map fun picks => sendTick send picks o.intervalSecs

end Heartbeat.Sim
