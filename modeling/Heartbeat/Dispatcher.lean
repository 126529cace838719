import Heartbeat.Queue
/-!
# The dispatcher

The dispatcher reads payloads one at a time, decodes them and hands the signals to the workers. It
stops when it is cancelled, when the subscription ends or when the workers are gone.

Whenever it waits for one of two things it looks at one after the other, and anything may happen
between the two looks. Before a read it looks at the cancellation first and at the topic then; so a
payload may be read though the intake has just been cancelled. After a hand-over it looks at the queue
first and at the cancellation then: a signal that it finds taken counts even if the intake is cancelled,
one that still waits at the second look is dropped, and one that was taken between the two looks is
neither counted nor dropped.
-/
namespace Heartbeat

/-- What a read gives. -/
inductive Read where
  | payload (bytes : Bytes)
  /-- The read failed; the next one may not. -/
  | failed
  | closed
  deriving DecidableEq, Repr

/-- Where the dispatcher stands. -/
inductive DispatchPhase where
  /-- It looks at the cancellation next. -/
  | ready
  /-- It was not cancelled, and looks at the topic next. -/
  | asking
  /-- It has found the topic empty, and waits. -/
  | reading
  /-- It looks next at whether the queue has taken its signal. -/
  | handing
  /-- Its signal was still waiting, and it looks at the cancellation next. -/
  | checking
  | stopped
  deriving DecidableEq, Repr

structure Dispatcher where
  phase : DispatchPhase := .ready
  cancelled : Bool := false
  /-- Signals that the dispatcher has found taken by the queue. -/
  dispatched : Nat := 0
  /-- Payloads that are no signals. -/
  malformed : Nat := 0
  readErrors : Nat := 0
  deriving DecidableEq, Repr

namespace Dispatcher

/-- The dispatcher stops, and no longer feeds the queue. -/
def stop (d : Dispatcher) (q : WorkQueue) : Dispatcher × WorkQueue :=
  ({ d with phase := .stopped }, q.finish)

/-- Looks at the cancellation, and goes on in the given phase if there is none. -/
def heed (d : Dispatcher) (q : WorkQueue) (phase : DispatchPhase) : Dispatcher × WorkQueue :=
  if d.cancelled then d.stop q else ({ d with phase }, q)

/-- Makes something of what was read. The first look after a signal comes with its offer. -/
def receive (d : Dispatcher) (q : WorkQueue) : Read → Dispatcher × WorkQueue
  | .closed => d.stop q
  | .failed => ({ d with phase := .ready, readErrors := d.readErrors + 1 }, q)
  | .payload bytes =>
    match Signal.decode bytes with
    | .error _ => ({ d with phase := .ready, malformed := d.malformed + 1 }, q)
    | .ok signal =>
      if q.served then
        let q := q.offer signal
        ({ d with phase := if q.held = .accepted then .handing else .checking }, q)
      else d.stop q

/-- Looks at the topic, which has this to give. -/
def ask (d : Dispatcher) (q : WorkQueue) : Option Read → Dispatcher × WorkQueue
  | some read => d.receive q read
  | none => ({ d with phase := .reading }, q)

/-- Looks at whether the queue has taken the signal, and then at whether anybody works on the queue. -/
def lookAfter (d : Dispatcher) (q : WorkQueue) : Dispatcher × WorkQueue :=
  match q.held with
  | .accepted =>
    ({ d with phase := .ready, dispatched := d.dispatched + 1 }, { q with held := .nothing })
  | _ => if q.served then ({ d with phase := .checking }, q) else d.stop q

/-- Takes one look, at the cancellation, at what the topic has to give or at the queue. -/
def poll (d : Dispatcher) (q : WorkQueue) (next : Option Read) : Dispatcher × WorkQueue :=
  match d.phase with
  | .ready | .reading => d.heed q .asking
  | .asking => d.ask q next
  | .handing => d.lookAfter q
  | .checking => d.heed q .handing
  | .stopped => (d, q)

/-- Whether nothing has changed that the dispatcher waits for. -/
def waits (d : Dispatcher) (q : WorkQueue) (next : Option Read) : Bool :=
  match d.phase with
  | .reading => !d.cancelled && next.isNone
  | .handing => q.held != .accepted && q.served && !d.cancelled
  | .stopped => true
  | _ => false

/-! ## Reading from a script -/

/-- A dispatcher whose reads are given, after which it waits for ever. -/
structure Scripted where
  dispatcher : Dispatcher
  queue : WorkQueue
  reads : List Read
  asked : Nat := 0
  deriving DecidableEq, Repr

namespace Scripted

/-- One look, unless the dispatcher has to wait. -/
def step? (s : Scripted) : Option Scripted :=
  if s.dispatcher.waits s.queue s.reads.head? then none
  else
    let (dispatcher, queue) := s.dispatcher.poll s.queue s.reads.head?
    let asks := s.dispatcher.phase == .asking
    some
      { dispatcher
        queue
        reads := if asks then s.reads.tail else s.reads
        asked := if asks then s.asked + 1 else s.asked }

/-- Steps until nothing can move. The number bounds the steps. -/
def settleWithin : Nat → Scripted → Scripted
  | 0, s => s
  | fuel + 1, s => match s.step? with
    | some s => settleWithin fuel s
    | none => s

def settle (s : Scripted) : Scripted := settleWithin (5 * s.reads.length + 8) s

def cancel (s : Scripted) : Scripted := { s with dispatcher := { s.dispatcher with cancelled := true } }

end Scripted
end Dispatcher
end Heartbeat
