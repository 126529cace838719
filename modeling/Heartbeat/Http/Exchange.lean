import Heartbeat.Http.Status
import Heartbeat.Text.Utf8
/-!
# Requests to other servers

A request that is sent either gets a reply or does not: nobody can be reached, or nobody answers in
time. What becomes of it is the `Outcome` that callers act on.
-/
namespace Heartbeat.Http

structure Outgoing where
  method : String
  path : String
  authorization : Option String := none
  contentType : Option String := none
  body : String := ""
  deriving DecidableEq, Repr

inductive Outcome where
  | unreachable
  | timedOut
  | replied (code : Nat) (body : Bytes)
  deriving DecidableEq, Repr

/-- Why a request has no usable reply. -/
inductive RequestFault where
  | timeout
  /-- The request could not be built: a header cannot hold its value. -/
  | builder
  | decode
  | other
  deriving DecidableEq, Repr

/-- Whether a header can hold a text: it has no control characters but tabs. -/
def isHeaderText (text : String) : Bool :=
  (Text.encode text).all fun b => (0x20 ≤ b && b != 0x7F) || b == 0x09

/-- The code and the body of a reply, if there is one. -/
def Outcome.reply : Outcome → Except RequestFault (Nat × Bytes)
  | .unreachable => .error .other
  | .timedOut => .error .timeout
  | .replied code body => .ok (code, body)

end Heartbeat.Http
