import Heartbeat.Backend
/-!
# Sweeps

A sweep takes the tracker's window and writes it to the store in two bulk updates: what is in the
window goes up, everything else goes down. What is seen while the updates run belongs to the next
window. A sweep that fails has still used up its window.
-/
namespace Heartbeat

open Time (Instant)

structure SweepReport where
  seen : Nat
  markedUp : Nat
  markedDown : Nat
  finishedAt : Instant
  deriving DecidableEq, Repr

/-- Whether a sweep is under way, and what the last one that succeeded did. -/
structure SweepStatus where
  sweeping : Bool := false
  lastRun : Option SweepReport := none
  deriving DecidableEq, Repr

/-- How far a sweep has come: which operation is next. -/
inductive SweepPhase where
  | announce
  | take
  | markUp (window : List String)
  | markDown (window : List String) (markedUp : Nat)
  | finish (seen markedUp markedDown : Nat)
  | conclude (result : Except Store.Fault SweepReport)
  | done (result : Except Store.Fault SweepReport)

namespace SweepPhase

def step (b : Backend σ) : SweepPhase → SweepStatus × σ → SweepPhase × SweepStatus × σ
  | .announce, (status, s) => (.take, { status with sweeping := true }, s)
  | .take, (status, s) =>
    let (window, s) := b.takeWindow s
    (.markUp window, status, s)
  | .markUp window, (status, s) =>
    match b.setStatus window .inside .up s with
    | (.ok count, s) => (.markDown window count, status, s)
    | (.error fault, s) => (.conclude (.error fault), status, s)
  | .markDown window markedUp, (status, s) =>
    match b.setStatus window .outside .down s with
    | (.ok count, s) => (.finish window.length markedUp count, status, s)
    | (.error fault, s) => (.conclude (.error fault), status, s)
  | .finish seen markedUp markedDown, (status, s) =>
    let (now, s) := b.readClock s
    (.conclude (.ok ⟨seen, markedUp, markedDown, now⟩), status, s)
  | .conclude result, (status, s) =>
    let lastRun := match result with
      | .ok report => some report
      | .error _ => status.lastRun
    (.done result, { sweeping := false, lastRun }, s)
  | .done result, (status, s) => (.done result, status, s)

def advance (b : Backend σ) : Nat → SweepPhase → SweepStatus × σ → SweepPhase × SweepStatus × σ
  | 0, phase, s => (phase, s)
  | n + 1, phase, s =>
    let (phase, s) := step b phase s
    advance b n phase s

end SweepPhase

/-- A sweep with nothing in between. It has at most six operations. -/
def sweep (b : Backend σ) (status : SweepStatus) (s : σ) :
    Except Store.Fault SweepReport × SweepStatus × σ :=
  match SweepPhase.advance b 6 .announce (status, s) with
  | (.done result, status, s) => (result, status, s)
  | (_, status, s) => (.error .unavailable, status, s)

end Heartbeat
