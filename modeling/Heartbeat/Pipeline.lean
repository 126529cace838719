import Heartbeat.Dispatcher
import Heartbeat.Services
/-!
# The pipeline

The tasks of a daemon around its services: the dispatcher, the workers, the archive's task and the
sweeps. Each of them can take a step whenever it does not have to wait, in any order; `settle`
runs them in one order until all wait. A shutdown cancels the intake, lets the workers finish what
is queued, stops the sweeps and closes the archive last.
-/
namespace Heartbeat

inductive Worker where
  | idle
  | busy (signal : Signal) (phase : ProcessPhase)
  | gone

/-- How a pipeline is set up. Times are milliseconds. -/
structure PipelineSettings where
  /-- How many workers there are; zero counts as one. -/
  workers : Nat
  /-- How many signals are queued for them; zero counts as one. -/
  queueCapacity : Nat
  /-- How long the cache keeps a record. -/
  cacheTtl : Nat
  archive : Archive.Settings
  reconcilePeriod : Nat
  deriving DecidableEq, Repr

structure Pipeline where
  services : Services
  dispatcher : Dispatcher := {}
  queue : WorkQueue
  workers : List Worker
  /-- What became of the signals that were processed, latest first. -/
  finished : List (Signal × Except ProcessFault Processed) := []
  reconcilePeriod : Nat
  /-- When the next sweep is due; none if there are no more. -/
  nextSweep : Option Nat
  sweeping : Option SweepPhase := none
  ended : Bool := false

/-- A sweep was due and starts at a time. A delay of no more than five milliseconds is made up for;
otherwise the next one is at the next multiple of the period. -/
def nextAfterSkip (due now period : Nat) : Nat :=
  if due + 5 < now then now + period - (now - due) % period else due + period

/-- What the topic has to give to its reader, and what is left then. -/
def Topic.next? (t : Topic) : Option Read × Topic :=
  match t.receive with
  | (.payload bytes, t) => (some (.payload bytes), t)
  | (.closed, t) => (some .closed, t)
  | (.pending, t) => (none, t)

namespace Pipeline

def start (settings : PipelineSettings) (services : Services) : Pipeline :=
  { services
    queue := { capacity := max 1 settings.queueCapacity }
    workers := List.replicate (max 1 settings.workers) .idle
    reconcilePeriod := settings.reconcilePeriod
    nextSweep := some (services.now + settings.reconcilePeriod) }

/-! ## Steps of the tasks -/

/-- The topic as the dispatcher leaves it: awaited while it reads, given up when it stops. -/
def syncTopic (p : Pipeline) : Pipeline :=
  let topic := p.services.topic
  let topic := match p.dispatcher.phase with
    | .stopped => if topic.subscribed then topic.unsubscribe else topic
    | .reading => { topic with awaited := topic.queue.isEmpty }
    | .asking => topic
    | _ => { topic with awaited := false }
  { p with services := { p.services with topic } }

/-- The dispatcher takes one look, unless it has stopped. -/
def pollDispatcher (p : Pipeline) : Pipeline :=
  if p.dispatcher.phase = .stopped then p
  else
    let (next, rest) := p.services.topic.next?
    let (dispatcher, queue) := p.dispatcher.poll p.queue next
    let topic := if p.dispatcher.phase = .asking then rest else p.services.topic
    syncTopic { p with dispatcher, queue, services := { p.services with topic } }

/-- A step of the dispatcher, if it does not have to wait. -/
def stepDispatcher? (p : Pipeline) : Option Pipeline :=
  if p.dispatcher.waits p.queue p.services.topic.next?.1 then none else some p.pollDispatcher

/-- A step of the worker of the given number, if it does not have to wait: what it does next, and
what it leaves. -/
def stepWorker? (p : Pipeline) (i : Nat) : Worker → Option (Worker × Pipeline)
  | .gone => none
  | .idle =>
    match p.queue.ask i with
    | (some signal, queue) => some (.busy signal .start, { p with queue })
    | (none, queue) =>
      if queue.isOver then some (.gone, { p with queue })
      else if i ∈ p.queue.parked then none
      else some (.idle, { p with queue })
  | .busy signal phase =>
    let (phase, services) := phase.step Services.backend signal p.services
    let p := { p with services }
    match phase with
    | .done result => some (.idle, { p with finished := (signal, result) :: p.finished })
    | phase => some (.busy signal phase, p)

/-- A step of the worker of the given number. -/
def stepWorkerAt? (p : Pipeline) (i : Nat) : Option Pipeline := do
  let worker ← p.workers[i]?
  let (worker, p) ← p.stepWorker? i worker
  return { p with workers := p.workers.set i worker }

def stepArchive? (p : Pipeline) : Option Pipeline :=
  (p.services.archive.step? p.services.index p.services.now).map fun archive =>
    { p with services := { p.services with archive } }

/-- A step of the sweeps: the next step of the one under way, or the start of one that is due. -/
def stepSweep? (p : Pipeline) : Option Pipeline :=
  match p.sweeping with
  | some phase =>
    let (phase, sweepStatus, services) :=
      phase.step Services.backend (p.services.sweepStatus, p.services)
    let p := { p with services := { services with sweepStatus } }
    match phase with
    | .done _ => some { p with sweeping := none }
    | phase => some { p with sweeping := some phase }
  | none =>
    match p.nextSweep with
    | none => none
    | some due =>
      if due ≤ p.services.now then
        some { p with
          sweeping := some .announce
          nextSweep := some (nextAfterSkip due p.services.now p.reconcilePeriod) }
      else none

def Worker.isBusy : Worker → Bool
  | .busy .. => true
  | _ => false

/-- A step of the worker that is at work or, if there is none, of the first that is idle. -/
def stepAnyWorker? (p : Pipeline) : Option Pipeline :=
  match p.workers.findIdx? Worker.isBusy with
  | some i => p.stepWorkerAt? i
  | none => (List.range p.workers.length).findSome? p.stepWorkerAt?

/-- A step of some task, if any does not have to wait. Signals are processed one after another. -/
def step? (p : Pipeline) : Option Pipeline :=
  p.stepAnyWorker?.or (p.stepDispatcher?.or (p.stepArchive?.or p.stepSweep?))

/-! ## Running -/

/-- Runs the tasks until all wait. The number bounds the steps. -/
def settleWithin : Nat → Pipeline → Pipeline
  | 0, p => p
  | fuel + 1, p => match p.step? with
    | some p => settleWithin fuel p
    | none => p

/-- A bound on the steps until all tasks wait. -/
def effort (p : Pipeline) : Nat :=
  24 * (p.services.topic.queue.length + p.queue.signals.length + p.workers.length + 4) +
    4 * p.services.archive.queue.length + 40

/-- Runs the tasks until all wait. -/
def settle (p : Pipeline) : Pipeline := settleWithin p.effort p

/-- Lets time pass, and then everything run that can. -/
def advance (millis : Nat) (p : Pipeline) : Pipeline :=
  settle { p with services := { p.services with now := p.services.now + millis } }

def cancelIntake (p : Pipeline) : Pipeline :=
  settle { p with dispatcher := { p.dispatcher with cancelled := true } }

/-- Shuts the pipeline down, and waits for the end of all tasks. -/
def shutdown (p : Pipeline) : Pipeline :=
  let p := p.cancelIntake
  let p := { p with nextSweep := none, ended := true }
  { p with services := p.services.closeArchive }

/-- Publishes payloads at once, and lets everything run that can. -/
def publish (payloads : List Bytes) (p : Pipeline) : List (Except PublishFault Unit) × Pipeline :=
  let (results, services) := p.services.publish payloads
  (results, settle { p with services })

/-- Does something to the services, and lets everything run that can. -/
def act (f : Services → α × Services) (p : Pipeline) : α × Pipeline :=
  let (result, services) := f p.services
  (result, settle { p with services })

end Pipeline
end Heartbeat
