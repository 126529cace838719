import Heartbeat.Proofs.Pipeline.Delivery
import Heartbeat.Proofs.Pipeline.Registry
import Heartbeat.Proofs.Pipeline.Shutdown

/-! What becomes of the payloads does not depend on who goes on when. In a pipeline whose store does its work
and which is shut down after its topic, every signal is taken by one worker, leaves its address in the
tracker and in the table, and goes out in one document; so the tracker, the addresses of the table and the
documents follow from the payloads alone. -/
namespace Heartbeat
open Store (Table)
open Archive (Writer Item)

namespace Daemon

variable {d : Daemon} {initial : List String}

/-- The store does what a worker's next step asks of it, and nobody else uses it. -/
def Served (d : Daemon) (worker : Worker) : Prop :=
  d.pipeline.services.disturbances = [] ∧ match worker with
    | .busy signal phase => phase.Served d.pipeline.services signal
    | _ => True

instance (d : Daemon) : (worker : Worker) → Decidable (d.Served worker)
  | .busy .. => inferInstanceAs (Decidable (_ ∧ _))
  | .idle | .gone => inferInstanceAs (Decidable (_ ∧ True))

/-- What may happen where the store is the pipeline's own and does its work, the cache holds nothing but
what the pipeline has written, and nobody sweeps. -/
def Tended (d : Daemon) : Event → Prop
  | .work i => ∀ worker ∈ d.pipeline.workers[i]?, d.Served worker
  | .sweep => False
  | .elsewhere services =>
    services.database.table = d.pipeline.services.database.table ∧
      ∀ entry ∈ services.cache.entries, (entry.1, entry.2.value) ∈ d.written
  | _ => True

instance (d : Daemon) : (event : Event) → Decidable (d.Tended event)
  | .work i => inferInstanceAs (Decidable (∀ worker ∈ d.pipeline.workers[i]?, d.Served worker))
  | .sweep => isFalse id
  | .elsewhere _ => inferInstanceAs (Decidable (_ ∧ _))
  | .publish _ | .addPublisher | .removePublisher | .dispatch | .readFails | .archive _ | .desert
  | .cancel | .shutdown => isTrue trivial

/-- Such an event, with the intake cancelled late if it is. -/
def Calm (d : Daemon) (event : Event) : Prop := d.Tended event ∧ d.Late event

instance (d : Daemon) (event : Event) : Decidable (d.Calm event) :=
  inferInstanceAs (Decidable (_ ∧ _))

/-- The invariant of a pipeline to which nothing else happens. -/
structure Conserves (initial : List String) (d : Daemon) : Prop where
  sound : d.Sound
  complete : d.Complete
  registry : ∃ t, d.registry.Sound initial t
  manned : d.pipeline.workers ≠ []

/-! ## One event -/

/-- The registry is the workers' own. -/
theorem registry_after {t : Table} (sound : d.Sound) (registry : d.registry.Sound initial t)
    (event : Event) (tended : d.Tended event) :
    ∃ t', (d.after event).registry.Sound initial t' := by
  have happened := d.happened event
  generalize d.after event = d' at happened ⊢
  cases happened with
  | dispatched step =>
    refine ⟨t, ?_⟩
    cases step <;> exact registry
  | @worked i p step =>
    have running (worker : Worker) (present : d.pipeline.workers[i]? = some worker)
        (here : worker.isGone = false) : d.pipeline.services.archive.mode? ≠ none := by
      have serving := sound.archival.writer.serving (sound.archival.isOpen present here)
      intro ended
      cases serving.symm.trans ended
    exact registry.worked (fun worker present => (tended worker present).1) running
      (fun signal phase busy => (tended _ busy).2) step
  | swept => exact absurd tended id
  | elsewhere services =>
    obtain ⟨table, cached⟩ := tended
    exact ⟨t, table.trans registry.held, registry.unique, registry.kept, registry.gained,
      registry.marked, registry.working, registry.entered, cached, registry.wrote⟩
  | _ => exact ⟨t, registry⟩

/-- **Calm events conserve** what the pipeline has to account for. -/
theorem Conserves.after (conserves : d.Conserves initial) (event : Event) (calm : d.Calm event) :
    (d.after event).Conserves initial := by
  obtain ⟨t, registry⟩ := conserves.registry
  exact
    { sound := conserves.sound.after event
      complete := conserves.complete.after conserves.sound.intake.served event calm.2
      registry := registry_after conserves.sound registry event calm.1
      manned := manned_after conserves.manned event }

/-! ## Whole runs -/

variable {settings : PipelineSettings} {services : Services} {t₀ : Table} {events : List Event}

/-- Once the shutdown has returned, the signals that were processed are those of all payloads, and no worker
is at one. -/
theorem Conserves.processed (conserves : d.Conserves initial) (returned : d.stage = .returned) :
    (d.pipeline.finished.map Prod.fst).Perm (signals d.published) ∧
      d.registry.taken = d.pipeline.finished.map Prod.fst := by
  obtain ⟨⟨intake, -, staged⟩, complete, -, manned⟩ := conserves
  obtain ⟨stopped, joined⟩ := staged.late (by simp [returned])
  obtain ⟨dispatched, dropped, spread, -, processed, -, lost⟩ := intake.settled stopped joined manned
  -- nothing waited when the dispatcher was stopped, and nothing is left in the topic
  have none : dropped = [] := lost.elim id fun pending => pending.trans complete.kept
  have read : d.published = d.read := by
    rw [complete.whole, (complete.stopped stopped).2, List.append_nil]
  constructor
  · change signals d.read = _ at spread
    rw [read, spread, none, List.append_nil]
    exact processed.symm
  · have idle : d.pipeline.workers.filterMap Worker.signal? = [] := by
      refine List.filterMap_eq_nil_iff.mpr fun worker member => ?_
      have gone := List.all_eq_true.mp joined worker member
      cases worker <;> first | rfl | simp [Worker.isGone] at gone
    show d.pipeline.finished.map Prod.fst ++ d.pipeline.workers.filterMap Worker.signal? = _
    rw [idle, List.append_nil]

/-- A host is heard of twice and the publisher leaves; then both signals are read. -/
def heard : List Event :=
  [.publish "\x7b\"ip\":\"host\",\"time\":1,\"duration\":2\x7d".toUTF8.toList,
    .publish "\x7b\"ip\":\" host\",\"time\":3,\"duration\":4\x7d".toUTF8.toList, .removePublisher] ++
    List.replicate 8 .dispatch

/-- What was buffered is sent, the intake is shut down, the workers leave and the archive is closed. -/
def closing : List Event :=
  [.archive .receive, .archive (.conclude .failed), .archive .receive, .archive (.conclude .failed),
    .shutdown, .shutdown, .work 0, .work 1, .shutdown, .shutdown, .archive .notice, .archive .drain,
    .archive .drain, .shutdown]

/-- One worker processes both signals, one after the other. The queue has room for one, so the other has to
wait until the worker has taken it. -/
def alone : List Event :=
  heard ++ [.work 0] ++ List.replicate 3 .dispatch ++ List.replicate 21 (.work 0) ++ closing

end Daemon
end Heartbeat
