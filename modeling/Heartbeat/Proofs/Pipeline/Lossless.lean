import Heartbeat.Proofs.Pipeline.Shutdown
import Heartbeat.Proofs.Pipeline.Unread

/-! A shutdown that has returned. Every run keeps the daemon sound, so that when the shutdown returns the
dispatcher has stopped, the workers are gone and the archive has ended; what the invariant says of the queues
is then a statement about the signals and the documents themselves. A look at the cancellation and the read
behind it are two steps, so one more payload may be read when the intake is cancelled, and no second. -/
namespace Heartbeat
open Archive (Writer)

/-- What a signal does to the archive leaves the counters of bulk calls alone. -/
theorem ProcessPhase.Archives.accounted {signal : Signal} {s s' : Services} {phase next : ProcessPhase}
    (step : ProcessPhase.Archives signal s phase next s') (accounted : s.archive.Accounted) :
    s'.archive.Accounted := by
  cases step with
  | aside archive => exact archive ▸ accounted
  | queue archive => exact archive ▸ accounted
  | closed archive => exact archive ▸ accounted
  | count archive => exact archive ▸ accounted

namespace Daemon

variable {d : Daemon} {events : List Event}

/-! ## The counters of the archive -/

/-- The index has at most one outcome for each document of a bulk call. -/
def RepliesFit (d : Daemon) : Event → Prop
  | .archive move => d.pipeline.services.archive.Fits move
  | _ => True

instance (d : Daemon) : (event : Event) → Decidable (d.RepliesFit event)
  | .archive move => inferInstanceAs (Decidable (d.pipeline.services.archive.Fits move))
  | .publish _ | .addPublisher | .removePublisher | .dispatch | .readFails | .work _ | .desert | .sweep
  | .cancel | .shutdown | .elsewhere _ => isTrue trivial

theorem accounted_worked {p : Pipeline} {i : Nat} (sound : d.archival.Sound)
    (accounted : d.pipeline.services.archive.Accounted) (step : d.pipeline.Worked i p) :
    p.services.archive.Accounted := by
  have archives {signal : Signal} {phase : ProcessPhase}
      (busy : d.pipeline.workers[i]? = some (.busy signal phase)) :
      (phase.step Services.backend signal d.pipeline.services).2.archive.Accounted := by
    refine (ProcessPhase.archives ?_).accounted accounted
    rintro result rfl
    exact sound.undone _ result (List.mem_of_getElem? busy)
  cases step with
  | takes => exact accounted
  | parks => exact accounted
  | leaves => exact accounted
  | works busy => exact archives busy
  | finishes busy => exact archives busy

/-- Every event keeps the counters right, as long as the index replies as it should. -/
theorem accounted_after (sound : d.Sound) (accounted : d.pipeline.services.archive.Accounted)
    (event : Event) (fits : d.RepliesFit event) :
    (d.after event).pipeline.services.archive.Accounted := by
  have happened := d.happened event
  generalize d.after event = d' at happened ⊢
  cases happened with
  | @dispatched _ _ p step =>
    have same : p.services.archive = d.pipeline.services.archive :=
      congrArg Archival.archive (archival_dispatched step)
    exact same ▸ accounted
  | worked step => exact accounted_worked sound.archival accounted step
  | archived => exact accounted.perform _ fits
  | swept topic archive => exact archive ▸ accounted
  | _ => exact accounted

/-! ## After the cancellation -/

/-- The intake is cancelled, and so many payloads have been read since, which is at most one; with one read the
dispatcher asks for no other. -/
structure Closing (earlier : List Bytes) (d : Daemon) : Prop where
  cancelled : d.pipeline.dispatcher.cancelled = true
  reads : d.read = earlier ∨
    d.read.length = earlier.length + 1 ∧ d.pipeline.dispatcher.phase ≠ .asking

theorem Closing.dispatched {earlier read : List Bytes} {pending : List Signal} {p : Pipeline}
    (closing : d.Closing earlier) (step : d.pipeline.Dispatched read pending p) :
    { d with pipeline := p, read := d.read ++ read, pending := d.pending ++ pending }.Closing earlier := by
  obtain ⟨cancelled, reads⟩ := closing
  -- a look that reads nothing, and after which no payload is asked for
  have still {p : Pipeline} (same : p.dispatcher.cancelled = true) (phase : p.dispatcher.phase ≠ .asking) :
      { d with pipeline := p, read := d.read ++ [], pending := d.pending ++ pending }.Closing earlier := by
    rw [List.append_nil]
    exact ⟨same, reads.imp_right fun one => ⟨one.1, phase⟩⟩
  have one {payload : Bytes} {p : Pipeline} (asking : d.pipeline.dispatcher.phase = .asking)
      (same : p.dispatcher.cancelled = true) (phase : p.dispatcher.phase ≠ .asking) :
      { d with pipeline := p, read := d.read ++ [payload], pending := d.pending ++ pending }.Closing earlier := by
    have none : d.read = earlier := reads.resolve_right fun one => one.2 asking
    refine ⟨same, .inr ⟨?_, phase⟩⟩
    rw [none, List.length_append, List.length_singleton]
  cases step with
  | rest phase => exact still cancelled (by rw [phase]; exact nofun)
  | ask phase going => cases going.symm.trans cancelled
  | quit => exact still cancelled nofun
  | await => exact still cancelled nofun
  | finish => exact still cancelled nofun
  | refuse asking => exact one asking cancelled nofun
  | @offer _ _ signal asking =>
    refine one asking cancelled ?_
    show d.pipeline.queue.offerPhase signal ≠ .asking
    unfold WorkQueue.offerPhase
    split <;> exact nofun
  | refused asking => exact one asking cancelled nofun
  | notice => exact still cancelled nofun
  | miss => exact still cancelled nofun
  | abandon => exact still cancelled nofun
  | wait phase going => cases going.symm.trans cancelled
  | drop => exact still cancelled nofun

theorem Closing.after {earlier : List Bytes} (closing : d.Closing earlier) (event : Event) :
    (d.after event).Closing earlier := by
  have happened := d.happened event
  generalize d.after event = d' at happened ⊢
  cases happened with
  | dispatched step => exact closing.dispatched step
  | failed => exact ⟨closing.cancelled, closing.reads.imp_right fun one => ⟨one.1, nofun⟩⟩
  | worked step =>
    have same := Pipeline.dispatcher_of_worked step
    exact ⟨same ▸ closing.cancelled, same ▸ closing.reads⟩
  | cancelled => exact ⟨rfl, closing.reads⟩
  | begun => exact ⟨rfl, closing.reads⟩
  | _ => exact ⟨closing.cancelled, closing.reads⟩

variable {settings : PipelineSettings} {services : Services}

/-- What holds of a daemon throughout a run whose index replies as it should. -/
structure Whole (d : Daemon) : Prop where
  sound : d.Sound
  accounted : d.pipeline.services.archive.Accounted
  manned : d.pipeline.workers ≠ []
  history : d.History

theorem Whole.after (whole : d.Whole) (event : Event) (fits : d.RepliesFit event) :
    (d.after event).Whole where
  sound := whole.sound.after event
  accounted := accounted_after whole.sound whole.accounted event fits
  manned := manned_after whole.manned event
  history := whole.history.after event

/-- A heartbeat is published, read and processed; then the intake is shut down, the worker leaves and the
archive is closed. -/
def lifetime : List Event :=
  [.publish "\x7b\"ip\":\"host\",\"time\":1,\"duration\":2\x7d".toUTF8.toList, .dispatch, .dispatch,
      .dispatch] ++
    List.replicate 11 (.work 0) ++ [.archive .receive, .archive (.conclude .failed), .shutdown,
      .dispatch, .shutdown, .work 0, .shutdown, .shutdown, .archive .notice, .archive .drain,
      .archive .drain, .shutdown]

/-- The daemon after that. -/
def spent : Daemon := (start ⟨1, 1, 0, ⟨1, 1, 1⟩, 1⟩ .plain).run lifetime

end Daemon
end Heartbeat
