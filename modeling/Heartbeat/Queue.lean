import Heartbeat.Signal
/-!
# The worker queue

A bounded queue of signals between the dispatcher and the workers. When it is full the dispatcher
holds one further signal, and reads nothing more until the queue has taken it. A worker that takes a
signal makes room, and what is held moves in at once, before the dispatcher gets to know.

A worker that finds the queue empty is parked, and the next signal wakes it. A signal that wakes a
worker is queued whether or not there is room, so that the queue can be longer than its capacity, by
one signal for each worker that was woken and has not looked again.
-/
namespace Heartbeat

/-- What the dispatcher's side of the queue holds. -/
inductive Held where
  | nothing
  /-- A signal that found no room. -/
  | waiting (signal : Signal)
  /-- A signal that has moved in; the dispatcher has not noticed yet. -/
  | accepted
  deriving DecidableEq, Repr

structure WorkQueue where
  capacity : Nat
  signals : List Signal := []
  held : Held := .nothing
  /-- The workers that wait for a signal, by their numbers, the longest first. -/
  parked : List Nat := []
  /-- The workers that were woken and have not looked since. -/
  woken : List Nat := []
  fed : Bool := true
  served : Bool := true
  deriving DecidableEq, Repr

namespace WorkQueue

/-- Offers a signal: it moves in if it wakes a worker or if there is room, or it waits. -/
def offer (q : WorkQueue) (signal : Signal) : WorkQueue :=
  match q.parked with
  | worker :: parked =>
    { q with
      signals := q.signals ++ [signal], held := .accepted, parked, woken := q.woken ++ [worker] }
  | [] =>
    if q.signals.length < q.capacity then
      { q with signals := q.signals ++ [signal], held := .accepted }
    else { q with held := .waiting signal }

/-- Moves what waits to the end of the queue, unless the queue is longer than it should be. -/
def moveIn (q : WorkQueue) : WorkQueue :=
  match q.held with
  | .waiting signal =>
    if q.signals.length ≤ q.capacity then
      { q with signals := q.signals ++ [signal], held := .accepted }
    else q
  | _ => q

/-- The oldest signal is taken, which makes room for one that waits. -/
def take (q : WorkQueue) : Option Signal × WorkQueue :=
  let q := q.moveIn
  match q.signals with
  | [] => (none, q)
  | signal :: rest => (some signal, { q with signals := rest })

/-- A worker finds nothing and waits, behind those that wait already. -/
def park (q : WorkQueue) (worker : Nat) : WorkQueue :=
  if worker ∈ q.parked then q
  else { q with parked := q.parked ++ [worker], woken := q.woken.erase worker }

/-- A worker waits no longer. If it was woken and signals are left, it wakes all others. -/
def depart (q : WorkQueue) (worker : Nat) : WorkQueue :=
  let parked := q.parked.erase worker
  let woken := q.woken.erase worker
  if worker ∈ q.woken ∧ q.signals ≠ [] then { q with parked := [], woken := woken ++ parked }
  else { q with parked, woken }

/-- A worker looks for a signal, and waits for one if there is none and one may come. It may look at
any time, woken or not. -/
def ask (q : WorkQueue) (worker : Nat) : Option Signal × WorkQueue :=
  match q.take with
  | (some signal, q) => (some signal, q.depart worker)
  | (none, q) => (none, if q.fed then q.park worker else q)

/-- Whether nothing will come any more. -/
def isOver (q : WorkQueue) : Bool := !q.fed && q.signals.isEmpty

/-- The last worker goes, and with it what was queued. -/
def abandon (q : WorkQueue) : WorkQueue :=
  { q with served := false, signals := [], parked := [], woken := [] }

/-- The dispatcher goes; what waits is dropped. -/
def finish (q : WorkQueue) : WorkQueue := { q with fed := false, held := .nothing }

end WorkQueue
end Heartbeat
