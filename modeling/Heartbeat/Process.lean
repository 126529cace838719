import Heartbeat.Resolve
/-!
# Processing signals

A signal marks its address as seen, is resolved to a record, and leaves a copy of the record that is
up and of now: in the cache and, with the signal's own numbers, in the archive. The store's row is
not touched, the sweep does that. A cache that cannot be written is no reason to stop.
-/
namespace Heartbeat

/-- Why a signal was not processed to its end. -/
inductive ProcessFault where
  | resolve (fault : ResolveFault)
  /-- The archive takes no more documents. -/
  | archiveClosed
  deriving DecidableEq, Repr

def archiveClosedMessage : String := "archive writer has stopped"

def ProcessFault.message : ProcessFault → String
  | .resolve fault => "failed to resolve server: " ++ fault.message
  | .archiveClosed => archiveClosedMessage

structure Processed where
  record : Record
  resolution : Resolution
  /-- The id under which its document was queued. -/
  documentId : String
  deriving DecidableEq, Repr

/-- How far the processing of a signal has come: which operation is next. -/
inductive ProcessPhase where
  | mark (phase : Tracker.MarkPhase)
  | resolve (phase : ResolvePhase)
  | stamp (resolved : Resolved)
  | cache (record : Record) (resolution : Resolution)
  | submit (record : Record) (resolution : Resolution)
  | count (processed : Processed)
  | done (result : Except ProcessFault Processed)

namespace ProcessPhase

def start : ProcessPhase := .mark .look

/-- What follows from a step of the resolution. -/
def afterResolve : ResolvePhase → ProcessPhase
  | .done (.ok resolved) => .stamp resolved
  | .done (.error fault) => .done (.error (.resolve fault))
  | phase => .resolve phase

/-- The record that a signal leaves: up, and of the given time. -/
def refresh (record : Record) (now : Time.Instant) : Record :=
  { record with status := .up, lastUpdated := now }

/-- The next operation of processing a signal. -/
def step (b : Backend σ) (signal : Signal) : ProcessPhase → σ → ProcessPhase × σ
  | .mark .look, s =>
    (if b.isSeen signal.address s then .resolve .lookUp else .mark .add, s)
  | .mark .add, s => (.resolve .lookUp, b.addSeen signal.address s)
  | .mark .done, s => (.resolve .lookUp, s)
  | .resolve phase, s =>
    let (phase, s) := phase.step b signal.address s
    (afterResolve phase, s)
  | .stamp resolved, s =>
    let (now, s) := b.readClock s
    (.cache (refresh resolved.record now) resolved.resolution, s)
  | .cache record resolution, s =>
    let (_, s) := cacheRecord b record s
    (.submit record resolution, s)
  | .submit record resolution, s =>
    match b.enqueue (Document.ofSignal record signal) s with
    | (some id, s) => (.count ⟨record, resolution, id⟩, s)
    | (none, s) => (.done (.error .archiveClosed), s)
  | .count processed, s => (.done (.ok processed), b.countDocument s)
  | .done result, s => (.done result, s)

def advance (b : Backend σ) (signal : Signal) : Nat → ProcessPhase → σ → ProcessPhase × σ
  | 0, phase, s => (phase, s)
  | n + 1, phase, s =>
    let (phase, s) := step b signal phase s
    advance b signal n phase s

/-- What processing has led to; nothing yet if it is under way. -/
def result? : ProcessPhase → Option (Except ProcessFault Processed)
  | .done result => some result
  | _ => none

end ProcessPhase

/-- Processes a signal with nothing in between. That takes at most ten operations: two of the
mark, four of the resolution, and the clock, the cache, the archive and its counter. -/
def process (b : Backend σ) (signal : Signal) (s : σ) : Except ProcessFault Processed × σ :=
  let (phase, s) := ProcessPhase.advance b signal 10 .start s
  (phase.result?.getD (.error .archiveClosed), s)

end Heartbeat
