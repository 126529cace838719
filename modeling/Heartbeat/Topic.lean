import Heartbeat.Text.Utf8
/-!
# The topic

A bounded queue of payloads between any number of publishers and one subscription. A publisher
never waits: a topic that is full, or that nobody reads any more, is reported. The subscription ends
when the publishers are gone and what they left has been read. A topic without room hands a
payload over only to a reader that waits for one.
-/
namespace Heartbeat

/-- Why a payload was not published. -/
inductive PublishFault where
  | full (topic : String)
  | unread (topic : String)
  deriving DecidableEq, Repr

def PublishFault.message : PublishFault → String
  | .full topic => "topic " ++ topic ++ " is full"
  | .unread topic => "topic " ++ topic ++ " has no subscriber"

/-- What a read gives. -/
inductive Received where
  | payload (bytes : Bytes)
  /-- Nothing yet. -/
  | pending
  /-- Nothing any more. -/
  | closed
  deriving DecidableEq, Repr

def Received.closedMessage : String := "subscription closed"

structure Topic where
  name : String
  capacity : Nat
  /-- Payloads not yet read, oldest first. -/
  queue : List Bytes := []
  publishers : Nat := 1
  /-- Whether there is still a subscription. -/
  subscribed : Bool := true
  /-- Whether a reader waits for the next payload. -/
  awaited : Bool := false
  deriving DecidableEq, Repr

namespace Topic

/-- Publishes a payload behind those that wait. A waiting reader takes one beyond the capacity. -/
def publish (t : Topic) (payload : Bytes) : Except PublishFault Topic :=
  if ¬ t.subscribed then .error (.unread t.name)
  else if t.awaited ∨ t.queue.length < t.capacity then
    .ok { t with queue := t.queue ++ [payload], awaited := false }
  else .error (.full t.name)

def receive (t : Topic) : Received × Topic :=
  match t.queue with
  | payload :: rest => (.payload payload, { t with queue := rest })
  | [] => (if t.publishers = 0 then .closed else .pending, t)

def addPublisher (t : Topic) : Topic :=
  if t.publishers = 0 then t else { t with publishers := t.publishers + 1 }

def removePublisher (t : Topic) : Topic := { t with publishers := t.publishers - 1 }

/-- The subscription ends, and with it what was not read. -/
def unsubscribe (t : Topic) : Topic := { t with subscribed := false, queue := [], awaited := false }

end Topic
end Heartbeat
