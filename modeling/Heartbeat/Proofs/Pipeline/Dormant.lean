import Heartbeat.Proofs.Pipeline.Steps
import Heartbeat.Proofs.Process.Footprint
import Heartbeat.Startup

/-! A daemon in which the task of the sweeps has ended. Nothing that happens brings it back, and nothing else in the
daemon does its work: rows may be added, but what is stored stays as it is. -/
namespace Heartbeat
open Store (Table)

variable {s s' s'' : Services}

/-! ## What only a sweep does -/

/-- No sweep has come between: every row is there as it was, and so is the report of the last sweep. -/
structure Services.Unswept (s s' : Services) : Prop where
  rows : ∀ t, s.database.table = some t → ∃ t', s'.database.table = some t' ∧ t.rows.Sublist t'.rows
  status : s'.sweepStatus = s.sweepStatus

/-- Whatever leaves the database and the status alone is no sweep. -/
theorem Services.Unswept.aside (database : s'.database = s.database) (status : s'.sweepStatus = s.sweepStatus) :
    s.Unswept s' where
  rows t held := ⟨t, by rw [database, held], .refl _⟩
  status := status

theorem Services.Unswept.trans (first : s.Unswept s') (second : s'.Unswept s'') : s.Unswept s'' where
  rows t held := by
    obtain ⟨t', held', kept⟩ := first.rows t held
    obtain ⟨t'', held'', kept'⟩ := second.rows t' held'
    exact ⟨t'', held'', kept.trans kept'⟩
  status := second.status.trans first.status

/-- An operation of a signal has no part in the status of the sweeps. -/
theorem ProcessPhase.step_sweepStatus (phase : ProcessPhase) (signal : Signal) (s : Services) :
    (phase.step Services.backend signal s).2.sweepStatus = s.sweepStatus := by
  cases phase with
  | mark mark => cases mark <;> rfl
  | resolve phase =>
    have only := (phase.step_called signal.address s).only
    simp only [step]
    generalize phase.step Services.backend signal.address s = after at only ⊢
    obtain ⟨next, left⟩ := after
    cases only
    rfl
  | stamp => rfl
  | cache record =>
    simp only [step, cacheRecord, Services.backend, Services.cacheSet]
    split <;> rfl
  | submit record =>
    simp only [step, Services.backend, Services.enqueue]
    cases s.archive.enqueue? ⟨s.documentId s.documents, Document.ofSignal record signal⟩ <;> rfl
  | count => rfl
  | done => rfl

/-- **An operation of a signal does no work of a sweep.** -/
theorem ProcessPhase.step_unswept (phase : ProcessPhase) (signal : Signal) (s : Services) :
    s.Unswept (phase.step Services.backend signal s).2 where
  rows t held := by
    have rows := (phase.step_worked signal s).rows
    rw [held] at rows
    exact rows.rows_sublist
  status := phase.step_sweepStatus signal s

/-! ## Runs without sweeps -/

namespace Daemon

variable {d : Daemon} {events : List Event}

/-- A daemon around a pipeline whose tasks have begun at a moment of the steady clock. -/
def launch (clock : Time.Steady) (settings : PipelineSettings) (services : Services) : Daemon where
  pipeline := .launch clock settings services
  published := services.topic.queue

/-- No sweep is due, and none is under way. -/
structure Dormant (d : Daemon) : Prop where
  unscheduled : d.pipeline.nextSweep = none
  idle : d.pipeline.sweeping = none

/-- There is no step that the sweeps could take. -/
theorem Dormant.sweep (dormant : d.Dormant) : d.after .sweep = d := by
  have stuck : d.pipeline.stepSweep? = none := by
    unfold Pipeline.stepSweep?
    rw [dormant.idle, dormant.unscheduled]
  simp only [after, stuck, Option.getD_none]

/-- What others do may add rows; it changes none, and does not touch the status of the sweeps. -/
def Sparing (d : Daemon) : Event → Prop
  | .elsewhere services => d.pipeline.services.Unswept services
  | _ => True

/-- **Nothing that happens starts the sweeps again**, or does their work, unless others do it. -/
theorem Dormant.after (dormant : d.Dormant) (event : Event) :
    (d.after event).Dormant ∧
      (d.Sparing event → d.pipeline.services.Unswept (d.after event).pipeline.services) := by
  by_cases sweep : event = .sweep
  · rw [sweep, dormant.sweep]
    exact ⟨dormant, fun _ => .aside rfl rfl⟩
  · have happened := d.happened event
    generalize d.after event = d' at happened ⊢
    obtain ⟨unscheduled, idle⟩ := dormant
    cases happened with
    | dispatched step => cases step <;> exact ⟨⟨unscheduled, idle⟩, fun _ => .aside rfl rfl⟩
    | worked step =>
      cases step with
      | takes => exact ⟨⟨unscheduled, idle⟩, fun _ => .aside rfl rfl⟩
      | parks => exact ⟨⟨unscheduled, idle⟩, fun _ => .aside rfl rfl⟩
      | leaves => exact ⟨⟨unscheduled, idle⟩, fun _ => .aside rfl rfl⟩
      | works => exact ⟨⟨unscheduled, idle⟩, fun _ => ProcessPhase.step_unswept _ _ _⟩
      | finishes => exact ⟨⟨unscheduled, idle⟩, fun _ => ProcessPhase.step_unswept _ _ _⟩
    | swept => exact absurd rfl sweep
    | closed => exact ⟨⟨rfl, idle⟩, fun _ => .aside rfl rfl⟩
    | elsewhere services => exact ⟨⟨unscheduled, idle⟩, fun sparing => ⟨sparing.rows, sparing.status⟩⟩
    | _ => exact ⟨⟨unscheduled, idle⟩, fun _ => .aside rfl rfl⟩

theorem Dormant.run (dormant : d.Dormant) (events : List Event) : (d.run events).Dormant := by
  induction events generalizing d with
  | nil => exact dormant
  | cons event events ih => exact ih (dormant.after event).1

/-- **Without sweeps no run does their work**, unless others do it. -/
theorem Dormant.run_unswept (dormant : d.Dormant) (obeys : d.Obeys Sparing events) :
    d.pipeline.services.Unswept (d.run events).pipeline.services := by
  have step (d' : Daemon) (event : Event) (held : d'.Dormant ∧ d.pipeline.services.Unswept d'.pipeline.services)
      (sparing : d'.Sparing event) :
      (d'.after event).Dormant ∧ d.pipeline.services.Unswept (d'.after event).pipeline.services := by
    obtain ⟨still, unswept⟩ := held.1.after event
    exact ⟨still, held.2.trans (unswept sparing)⟩
  exact (run_induction step ⟨dormant, .aside rfl rfl⟩ obeys).2

end Daemon
end Heartbeat
