import Heartbeat.Pipeline
import Heartbeat.Proofs.Archive.Moves
import Heartbeat.Proofs.Pipeline.Frame

/-! A pipeline from its start to the return of its shutdown. A run is a list of events, each a step of one
task, of the shutdown or of the world outside, in any order; an event for which nobody is ready changes
nothing. Beside the pipeline the daemon remembers what no task remembers: which payloads the topic took,
which of them the dispatcher has read, which signal waited for room when the cancellation stopped the
dispatcher, and what the workers have written to the cache. -/
namespace Heartbeat
open Archive (Writer)

/-- What a shutdown waits for. -/
inductive Stage where
  /-- Nobody has asked for it. -/
  | running
  | dispatcher
  | workers
  | sweeps
  | archive
  /-- It has returned. -/
  | returned
  deriving DecidableEq, Repr

/-- A pipeline, how far its shutdown has come, and the history of its intake and its cache. -/
structure Daemon where
  pipeline : Pipeline
  stage : Stage := .running
  /-- The payloads that the topic has taken, oldest first. -/
  published : List Bytes
  /-- The payloads that the dispatcher has read, oldest first. -/
  read : List Bytes := []
  /-- The signal whose hand-over was pending when the cancellation stopped the dispatcher, if there was
  one. -/
  pending : List Signal := []
  /-- The keys and values that the workers have written to the cache, oldest first. -/
  written : List (String × String) := []

/-- Something that happens in a daemon. -/
inductive Event where
  | publish (payload : Bytes)
  | addPublisher
  | removePublisher
  /-- The dispatcher takes a look. -/
  | dispatch
  /-- The read that the dispatcher asks or waits for fails. -/
  | readFails
  /-- The worker of the given number goes on. -/
  | work (i : Nat)
  | archive (move : Archive.Move)
  /-- The last one who could submit is gone. -/
  | desert
  /-- The sweep goes on, or one begins. -/
  | sweep
  /-- Somebody cancels the intake. -/
  | cancel
  /-- The shutdown begins, or goes on. -/
  | shutdown
  /-- Time passes, and others use the store, the cache and the index. -/
  | elsewhere (services : Services)

/-- A signal is being handed over. -/
def DispatchPhase.carries : DispatchPhase → Bool
  | .handing | .checking => true
  | .ready | .asking | .reading | .stopped => false

/-- The signal that waits for room. -/
def WorkQueue.waiting (q : WorkQueue) : List Signal :=
  match q.held with
  | .waiting signal => [signal]
  | _ => []

/-- The worker is gone. -/
def Worker.isGone : Worker → Bool
  | .gone => true
  | _ => false

/-- What the next operation of a signal writes to the cache. -/
def ProcessPhase.writes (s : Services) : ProcessPhase → List (String × String)
  | .cache record _ =>
    if s.cacheWriteFails then [] else [(cacheKey record.address, record.encodeCached)]
  | _ => []

namespace Pipeline

/-- What the next step of a worker writes to the cache. -/
def nextWrite (p : Pipeline) (i : Nat) : List (String × String) :=
  match p.workers[i]? with
  | some (.busy _ phase) => phase.writes p.services
  | _ => []

/-- The payload that the next look of the dispatcher reads. -/
def nextRead (p : Pipeline) : List Bytes :=
  if p.dispatcher.phase = .asking then p.services.topic.queue.take 1 else []

/-- The signal that the next look of the dispatcher gives up because the intake is cancelled. -/
def nextDrop (p : Pipeline) : List Signal :=
  if p.dispatcher.phase = .checking ∧ p.dispatcher.cancelled then p.queue.waiting else []

/-- The pipeline with another topic. -/
def setTopic (p : Pipeline) (topic : Topic) : Pipeline :=
  { p with services := p.services.setTopic topic }

/-- The pipeline with another archive. -/
def setArchive (p : Pipeline) (archive : Writer) : Pipeline :=
  { p with services := { p.services with archive } }

/-- The dispatcher's read has failed. -/
def failRead (p : Pipeline) : Pipeline :=
  if p.dispatcher.phase = .asking ∨ p.dispatcher.phase = .reading then
    syncTopic { p with dispatcher := (p.dispatcher.receive p.queue .failed).1 }
  else p

end Pipeline

/-- Services over an empty table, with an index that refuses everything. -/
def Services.plain : Services where
  database := { table := some {} }
  cache := { ttl := 0 }
  topic := { name := "signals", capacity := 2 }
  archive := .start ⟨1, 1, 1⟩ 0
  index _ _ := .failed
  clock _ := .epoch
  documentId _ := ""

namespace Daemon

/-- A daemon around a pipeline that starts. -/
def start (settings : PipelineSettings) (services : Services) : Daemon where
  pipeline := .start settings services
  published := services.topic.queue

/-- A payload is published, unless there is no publisher or the topic does not take it. -/
def publish (d : Daemon) (payload : Bytes) : Daemon :=
  if d.pipeline.services.topic.publishers = 0 then d
  else match d.pipeline.services.topic.publish payload with
    | .ok topic =>
      { d with pipeline := d.pipeline.setTopic topic, published := d.published ++ [payload] }
    | .error _ => d

/-- The dispatcher takes a look. It may do so whether or not anything has changed. -/
def dispatch (d : Daemon) : Daemon :=
  { d with
    pipeline := d.pipeline.pollDispatcher
    read := d.read ++ d.pipeline.nextRead
    pending := d.pending ++ d.pipeline.nextDrop }

/-- The intake is cancelled. -/
def cancel (d : Daemon) : Daemon :=
  let dispatcher := { d.pipeline.dispatcher with cancelled := true }
  { d with pipeline := { d.pipeline with dispatcher } }

/-- The shutdown goes on as soon as what it waits for has come. -/
def shutdown (d : Daemon) : Daemon :=
  match d.stage with
  | .running => { d.cancel with stage := .dispatcher }
  | .dispatcher =>
    if d.pipeline.dispatcher.phase = .stopped then { d with stage := .workers } else d
  | .workers => if d.pipeline.workers.all Worker.isGone then { d with stage := .sweeps } else d
  | .sweeps =>
    if d.pipeline.sweeping.isNone then
      { d with
        stage := .archive
        pipeline :=
          { d.pipeline.setArchive d.pipeline.services.archive.close with nextSweep := none } }
    else d
  | .archive =>
    if d.pipeline.services.archive.phase = .stopped then
      { d with stage := .returned, pipeline := { d.pipeline with ended := true } }
    else d
  | .returned => d

/-- The daemon after an event. -/
def after (d : Daemon) : Event → Daemon
  | .publish payload => d.publish payload
  | .addPublisher =>
    { d with pipeline := d.pipeline.setTopic d.pipeline.services.topic.addPublisher }
  | .removePublisher =>
    { d with pipeline := d.pipeline.setTopic d.pipeline.services.topic.removePublisher }
  | .dispatch => d.dispatch
  | .readFails => { d with pipeline := d.pipeline.failRead }
  | .work i =>
    { d with
      pipeline := (d.pipeline.stepWorkerAt? i).getD d.pipeline
      written := d.written ++ d.pipeline.nextWrite i }
  | .archive move =>
    { d with
      pipeline := d.pipeline.setArchive
        (d.pipeline.services.archive.perform d.pipeline.services.now move) }
  | .desert =>
    if d.pipeline.workers.all Worker.isGone then
      { d with
        pipeline := d.pipeline.setArchive { d.pipeline.services.archive with deserted := true } }
    else d
  | .sweep => { d with pipeline := d.pipeline.stepSweep?.getD d.pipeline }
  | .cancel => d.cancel
  | .shutdown => d.shutdown
  | .elsewhere services =>
    let old := d.pipeline.services
    { d with
      pipeline :=
        { d.pipeline with
          services :=
            { services with tracker := old.tracker, topic := old.topic, archive := old.archive } } }

/-- The daemon after a run of events. -/
def run (d : Daemon) (events : List Event) : Daemon := events.foldl after d

/-- Every event of a run keeps a rule. -/
def Obeys (rule : Daemon → Event → Prop) : Daemon → List Event → Prop
  | _, [] => True
  | d, event :: events => rule d event ∧ Obeys rule (d.after event) events

instance decidableObeys {rule : Daemon → Event → Prop} [∀ d event, Decidable (rule d event)] :
    (d : Daemon) → (events : List Event) → Decidable (d.Obeys rule events)
  | _, [] => isTrue trivial
  | d, event :: events =>
    have : Decidable ((d.after event).Obeys rule events) := decidableObeys _ events
    inferInstanceAs (Decidable (_ ∧ _))

/-- What every event that keeps the rule preserves, a run preserves. -/
theorem run_induction {rule : Daemon → Event → Prop} {P : Daemon → Prop}
    (step : ∀ d event, P d → rule d event → P (d.after event)) {events : List Event} {d : Daemon}
    (start : P d) (obeys : d.Obeys rule events) : P (d.run events) := by
  induction events generalizing d with
  | nil => exact start
  | cons event events ih => exact ih (step d event start obeys.1) obeys.2

end Daemon
end Heartbeat
