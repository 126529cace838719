import Heartbeat.Archive.Bulk
/-!
# The archive writer

Documents are queued without waiting and sent to the index in batches: when a batch is full, when a
timer ticks and something is buffered, and when the writer is closed. A batch is given up after a
timeout and never sent again. The writer is one task with the steps below; queueing a document and
counting it are two more, taken by whoever submits it.

A closed writer drains the queue, sends what is left and ends. Only then are documents refused, so what
is queued between the last look into the queue and the end is lost.
-/
namespace Heartbeat.Archive

/-- How documents are batched. Times are milliseconds. -/
structure Settings where
  /-- A batch is sent when it has so many documents; zero counts as one. -/
  batchSize : Nat
  /-- What is buffered is sent at least so often. -/
  flushInterval : Nat
  /-- A bulk call is given up after this time. -/
  flushTimeout : Nat
  deriving DecidableEq, Repr

/-- What the index does with a bulk call. -/
inductive BulkReply where
  | outcomes (list : List Outcome)
  /-- The call fails as a whole. -/
  | failed
  /-- The call never returns. -/
  | silent
  deriving DecidableEq, Repr

structure Stats where
  submitted : Nat := 0
  indexed : Nat := 0
  failed : Nat := 0
  flushes : Nat := 0
  failedFlushes : Nat := 0
  deriving DecidableEq, Repr

/-- What the task does when it is not sending. -/
inductive Mode where
  /-- It takes what comes. -/
  | serving
  | draining
  /-- It has found the queue empty and sent the last batch, if there was one to send. -/
  | ending
  deriving DecidableEq, Repr

/-- What the task is doing. -/
inductive Phase where
  | idle (mode : Mode)
  /-- A bulk call is under way, until the deadline. -/
  | sending (batch : List Item) (deadline : Nat) (next : Mode)
  | stopped
  deriving DecidableEq, Repr

structure Writer where
  settings : Settings
  /-- Documents not yet received by the task, oldest first. -/
  queue : List Item := []
  /-- Documents of the next batch, oldest first. -/
  buffer : List Item := []
  phase : Phase := .idle .serving
  /-- When the timer ticks next. -/
  nextTick : Nat
  closed : Bool := false
  /-- Whether nobody is left who could submit. -/
  deserted : Bool := false
  stats : Stats := {}
  /-- The batches of all bulk calls, oldest first. -/
  batches : List (List Item) := []
  deriving DecidableEq, Repr

/-- A timer was due and went off at a time. A delay of no more than five milliseconds is made up for;
otherwise the next period starts now. -/
def nextAfterDelay (due now period : Nat) : Nat :=
  if due + 5 < now then now + period else due + period

/-- The most documents that one buffer can be made for: a buffer has fewer than 2^63 bytes, and a
document takes up 128. -/
def largestBuffer : Nat := 9223372036854775807 / 128

/-- A buffer can be made for a whole batch. -/
def Settings.fits (settings : Settings) : Bool := max 1 settings.batchSize ≤ largestBuffer

namespace Writer

def start (settings : Settings) (now : Nat) : Writer :=
  { settings, nextTick := now + settings.flushInterval }

def limit (w : Writer) : Nat := max 1 w.settings.batchSize

/-- The task has failed to begin, and what was queued by then is lost. -/
def fail (w : Writer) : Writer := { w with phase := .stopped, queue := [] }

/-- The task begins by making its buffer. Documents may have been queued before. -/
def begun (w : Writer) : Writer := if w.settings.fits then w else w.fail

/-! ## Submitting -/

/-- The first step of a submission: the document is queued, unless the task has ended. -/
def enqueue? (w : Writer) (item : Item) : Option Writer :=
  if w.phase = .stopped then none else some { w with queue := w.queue ++ [item] }

def count (w : Writer) : Writer :=
  { w with stats := { w.stats with submitted := w.stats.submitted + 1 } }

/-- A whole submission, with nothing in between. -/
def submit? (w : Writer) (item : Item) : Option Writer := (w.enqueue? item).map count

def close (w : Writer) : Writer := { w with closed := true }

/-! ## The task -/

def flush (w : Writer) (now : Nat) (next : Mode) : Writer :=
  { w with
    buffer := []
    phase := .sending w.buffer (now + w.settings.flushTimeout) next
    stats := { w.stats with flushes := w.stats.flushes + 1 }
    batches := w.batches ++ [w.buffer] }

/-- Buffers one document, and starts a bulk call if that fills the batch. -/
def take (w : Writer) (now : Nat) (item : Item) (rest : List Item) (mode : Mode) : Writer :=
  let w := { w with queue := rest, buffer := w.buffer ++ [item] }
  if w.limit ≤ w.buffer.length then w.flush now mode else w

def receive (w : Writer) (now : Nat) : Writer :=
  match w.phase, w.queue with
  | .idle .serving, item :: rest => w.take now item rest .serving
  | _, _ => w

def tick (w : Writer) (now : Nat) : Writer :=
  if w.phase = .idle .serving ∧ w.nextTick ≤ now then
    let w := { w with nextTick := nextAfterDelay w.nextTick now w.settings.flushInterval }
    if w.buffer.isEmpty then w else w.flush now .serving
  else w

/-- Notices that the writer is closed, or that the queue is empty and nobody can fill it. -/
def notice (w : Writer) : Writer :=
  if w.phase = .idle .serving ∧ (w.closed ∨ (w.deserted ∧ w.queue = [])) then
    { w with phase := .idle .draining }
  else w

/-- Takes what is left, one document at a time, then sends the last batch, and then ends. -/
def drain (w : Writer) (now : Nat) : Writer :=
  match w.phase, w.queue with
  | .idle .draining, item :: rest => w.take now item rest .draining
  | .idle .draining, [] =>
    if w.buffer.isEmpty then { w with phase := .idle .ending } else w.flush now .ending
  | .idle .ending, _ => { w with phase := .stopped, queue := [] }
  | _, _ => w

def isCreated : Outcome → Bool
  | .created _ => true
  | .failed .. => false

/-- The counters after a bulk call for so many documents. Documents without an outcome failed. -/
def account (s : Stats) (size : Nat) : BulkReply → Stats
  | .outcomes list =>
    { s with
      indexed := s.indexed + list.countP isCreated
      failed := s.failed + (size - list.length) + list.countP (fun o => !isCreated o) }
  | .failed | .silent =>
    { s with failed := s.failed + size, failedFlushes := s.failedFlushes + 1 }

def conclude (w : Writer) (reply : BulkReply) : Writer :=
  match w.phase with
  | .sending batch _ next =>
    { w with phase := .idle next, stats := account w.stats batch.length reply }
  | _ => w

/-! ## Running -/

/-- What the index does with the call of the given number, counted from zero. -/
abbrev IndexBehaviour := Nat → List Item → BulkReply

/-- One step of the task, if it does not have to wait. -/
def step? (index : IndexBehaviour) (now : Nat) (w : Writer) : Option Writer :=
  match w.phase with
  | .sending batch deadline _ =>
    match index (w.stats.flushes - 1) batch with
    | .silent => if deadline ≤ now then some (w.conclude .silent) else none
    | reply => some (w.conclude reply)
  | .idle .serving =>
    if !w.queue.isEmpty then some (w.receive now)
    else if w.nextTick ≤ now then some (w.tick now)
    else if w.closed || w.deserted then some w.notice
    else none
  | .idle _ => some (w.drain now)
  | .stopped => none

/-- Runs the task until it has to wait. The number bounds the steps. -/
def settleWithin (index : IndexBehaviour) (now : Nat) : Nat → Writer → Writer
  | 0, w => w
  | fuel + 1, w => match w.step? index now with
    | some w => settleWithin index now fuel w
    | none => w

/-- Runs the task until it has to wait. -/
def settle (index : IndexBehaviour) (now : Nat) (w : Writer) : Writer :=
  settleWithin index now (3 * w.queue.length + 12) w

/-- Runs the task to its end: time goes on whenever it waits for a bulk call. Gives the time of the
end. The number bounds the calls. -/
def awaitEnd (index : IndexBehaviour) : Nat → Nat → Writer → Nat × Writer
  | 0, now, w => (now, w)
  | fuel + 1, now, w =>
    let w := w.settle index now
    match w.phase with
    | .sending _ deadline _ => awaitEnd index fuel (max now deadline) w
    | _ => (now, w)

def shutdown (index : IndexBehaviour) (now : Nat) (w : Writer) : Nat × Writer :=
  awaitEnd index (w.queue.length + w.buffer.length + 3) now w.close

end Writer
end Heartbeat.Archive
