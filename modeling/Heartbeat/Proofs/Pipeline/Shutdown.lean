import Heartbeat.Proofs.Pipeline.Archival

/-! What a shutdown has seen to when it returns. It goes through its stages in one order: the dispatcher has
stopped before it looks at the workers, the workers are gone before it closes the archive, and the archive
has stopped before it returns. What each stage waits for stays true, whatever else happens. -/
namespace Heartbeat
open Archive (Writer)

namespace Daemon

variable {d : Daemon} {p : Pipeline} {i : Nat}

/-- What the stages of a shutdown have waited for. -/
structure Staged (d : Daemon) : Prop where
  stopped : d.stage ≠ .running → d.stage ≠ .dispatcher → d.pipeline.dispatcher.phase = .stopped
  joined : d.stage ≠ .running → d.stage ≠ .dispatcher → d.stage ≠ .workers → d.archival.Joined
  ended : d.stage = .returned → d.pipeline.services.archive.phase = .stopped

/-- A shutdown that is past the workers. -/
theorem Staged.late (staged : d.Staged)
    (late : d.stage ≠ .running ∧ d.stage ≠ .dispatcher ∧ d.stage ≠ .workers) :
    d.pipeline.dispatcher.phase = .stopped ∧ d.archival.Joined :=
  ⟨staged.stopped late.1 late.2.1, staged.joined late.1 late.2.1 late.2.2⟩

/-- The invariant of a daemon. -/
structure Sound (d : Daemon) : Prop where
  intake : d.intake.Sound
  archival : d.archival.Sound
  staged : d.Staged

/-! ## What stays true -/

theorem stopped_of_dispatched {read : List Bytes} {pending : List Signal}
    (stopped : d.pipeline.dispatcher.phase = .stopped) (step : d.pipeline.Dispatched read pending p) :
    p.dispatcher.phase = .stopped := by
  cases step with
  | rest => exact stopped
  | ask phase => rcases phase with phase | phase <;> cases stopped.symm.trans phase
  | quit => rfl
  | await phase => cases stopped.symm.trans phase
  | finish => rfl
  | refuse phase => cases stopped.symm.trans phase
  | offer phase => cases stopped.symm.trans phase
  | refused => rfl
  | notice phase => cases stopped.symm.trans phase
  | miss phase => cases stopped.symm.trans phase
  | abandon => rfl
  | wait phase => cases stopped.symm.trans phase
  | drop => rfl

/-- Where all workers are gone none has a step. -/
theorem not_worked (joined : d.archival.Joined) : ¬ d.pipeline.Worked i p := by
  have here {worker : Worker} (at_ : d.pipeline.workers[i]? = some worker) : worker.isGone = true :=
    List.all_eq_true.mp joined worker (List.mem_of_getElem? at_)
  intro step
  cases step with
  | takes idle => exact absurd (here idle) (by simp [Worker.isGone])
  | parks idle => exact absurd (here idle) (by simp [Worker.isGone])
  | leaves idle => exact absurd (here idle) (by simp [Worker.isGone])
  | works busy => exact absurd (here busy) (by simp [Worker.isGone])
  | finishes busy => exact absurd (here busy) (by simp [Worker.isGone])

theorem perform_stopped {w : Writer} (stopped : w.phase = .stopped) (now : Nat) (move : Archive.Move) :
    w.perform now move = w := by
  cases move <;> simp [Writer.perform, Writer.receive, Writer.tick, Writer.notice, Writer.drain,
    Writer.conclude, stopped]

/-! ## One event -/

/-- A step of the dispatcher has nothing to do with the workers and the archive. -/
theorem archival_dispatched {read : List Bytes} {pending : List Signal}
    (step : d.pipeline.Dispatched read pending p) :
    { d with pipeline := p, read := d.read ++ read, pending := d.pending ++ pending }.archival = d.archival := by
  cases step <;> rfl

theorem Sound.dispatched {read : List Bytes} {pending : List Signal} (sound : d.Sound)
    (step : d.pipeline.Dispatched read pending p) :
    { d with pipeline := p, read := d.read ++ read, pending := d.pending ++ pending }.Sound := by
  have same := archival_dispatched step
  refine ⟨sound.intake.dispatched step, same ▸ sound.archival, ?_, ?_, ?_⟩
  · intro begun passed
    exact stopped_of_dispatched (sound.staged.stopped begun passed) step
  · intro begun passed left
    exact same ▸ sound.staged.joined begun passed left
  · intro returned
    exact (congrArg (fun v => v.archive.phase) same).trans (sound.staged.ended returned)

/-- An event that touches none of what the invariant speaks of. -/
theorem Sound.of_same {d' : Daemon} (sound : d.Sound) (intake : d'.intake = d.intake)
    (archival : d'.archival = d.archival) (stage : d'.stage = d.stage) : d'.Sound where
  intake := intake ▸ sound.intake
  archival := archival ▸ sound.archival
  staged :=
    { stopped := fun begun passed => (congrArg (fun v => v.dispatcher.phase) intake).trans
        (sound.staged.stopped (stage ▸ begun) (stage ▸ passed))
      joined := fun begun passed left =>
        archival ▸ sound.staged.joined (stage ▸ begun) (stage ▸ passed) (stage ▸ left)
      ended := fun returned => (congrArg (fun v => v.archive.phase) archival).trans
        (sound.staged.ended (stage ▸ returned)) }

theorem Sound.worked (sound : d.Sound) (step : d.pipeline.Worked i p) :
    { d with pipeline := p, written := d.written ++ d.pipeline.nextWrite i }.Sound := by
  refine ⟨sound.intake.worked step, sound.archival.worked step, ?_, ?_, ?_⟩
  · intro begun passed
    have stopped := sound.staged.stopped begun passed
    cases step <;> exact stopped
  · intro begun passed left
    exact absurd step (not_worked (sound.staged.joined begun passed left))
  · intro returned
    have stage : d.stage = .returned := returned
    exact absurd step (not_worked (sound.staged.late (by simp [stage])).2)

/-- The dispatcher does not read once it has stopped. -/
theorem Sound.failed (sound : d.Sound)
    (phase : d.pipeline.dispatcher.phase = .asking ∨ d.pipeline.dispatcher.phase = .reading) :
    { d with
      pipeline := Pipeline.syncTopic { d.pipeline with
        dispatcher := { d.pipeline.dispatcher with
          phase := .ready
          readErrors := d.pipeline.dispatcher.readErrors + 1 } } }.Sound := by
  refine ⟨sound.intake.failed phase, sound.archival, ?_, sound.staged.joined, sound.staged.ended⟩
  intro begun passed
  have stopped := sound.staged.stopped begun passed
  rcases phase with phase | phase <;> cases phase.symm.trans stopped

theorem Sound.archive (sound : d.Sound) (move : Archive.Move) : (d.after (.archive move)).Sound := by
  obtain ⟨writer, keeps⟩ := sound.archival.writer.move d.pipeline.services.now move
  refine ⟨sound.intake, ⟨writer, fun here => ?_, sound.archival.undone, ?_, ?_,
    sound.archival.received⟩, sound.staged.stopped, sound.staged.joined, fun returned => ?_⟩
  · have isOpen := sound.archival.opened here
    exact ⟨keeps.closed.trans isOpen.1, keeps.deserted.trans isOpen.2⟩
  · exact keeps.given ▸ sound.archival.given
  · exact keeps.submitted.trans sound.archival.submitted
  · have ended := sound.staged.ended returned
    show (d.pipeline.services.archive.perform d.pipeline.services.now move).phase = .stopped
    rw [perform_stopped ended]
    exact ended

/-- The archive may be told that nobody will submit any more, once nobody is there who could. -/
theorem Sound.shut (sound : d.Sound) (joined : d.archival.Joined) {archive : Writer}
    (barred : ¬ archive.Open) (given : archive.given = d.pipeline.services.archive.given)
    (stats : archive.stats = d.pipeline.services.archive.stats)
    (mode : archive.mode? = d.pipeline.services.archive.mode?)
    (rest : archive.queue = d.pipeline.services.archive.queue ∧
      archive.buffer = d.pipeline.services.archive.buffer) :
    { d.archival with archive }.Sound where
  writer :=
    { serving := fun isOpen => absurd isOpen barred
      spent := fun ended => by
        rw [rest.1, rest.2]
        exact sound.archival.writer.spent (ended.imp mode.symm.trans mode.symm.trans) }
  opened here := absurd joined here
  undone := sound.archival.undone
  given := given ▸ sound.archival.given
  submitted := stats ▸ sound.archival.submitted
  received := sound.archival.received

theorem Sound.cancel (sound : d.Sound) : d.cancel.Sound :=
  ⟨sound.intake.cancel, sound.archival, sound.staged.stopped, sound.staged.joined,
    sound.staged.ended⟩

/-- **Every event keeps the daemon sound.** -/
theorem Sound.after (sound : d.Sound) (event : Event) : (d.after event).Sound := by
  have happened := d.happened event
  generalize d.after event = d' at happened ⊢
  cases happened with
  | nothing => exact sound
  | published => exact sound.of_same rfl rfl rfl
  | entered => exact sound.of_same rfl rfl rfl
  | left => exact sound.of_same rfl rfl rfl
  | dispatched step => exact sound.dispatched step
  | failed phase => exact sound.failed phase
  | worked step => exact sound.worked step
  | archived move => exact sound.archive move
  | deserted joined =>
    refine ⟨sound.intake, ?_, sound.staged.stopped, sound.staged.joined, sound.staged.ended⟩
    exact sound.shut joined (fun isOpen => by cases isOpen.2) rfl rfl rfl ⟨rfl, rfl⟩
  | swept topic archive =>
    exact sound.of_same rfl (by simp only [Daemon.archival, archive]) rfl
  | cancelled => exact sound.cancel
  | begun =>
    exact ⟨sound.cancel.intake, sound.cancel.archival, fun _ passed => absurd rfl passed,
      fun _ passed => absurd rfl passed, by rintro ⟨⟩⟩
  | stopped stage stopped =>
    exact ⟨sound.intake, sound.archival, fun _ _ => stopped, fun _ _ left => absurd rfl left,
      by rintro ⟨⟩⟩
  | joined stage joined =>
    have stopped := sound.staged.stopped (by simp [stage]) (by simp [stage])
    exact ⟨sound.intake, sound.archival, fun _ _ => stopped, fun _ _ _ => joined, by rintro ⟨⟩⟩
  | closed stage =>
    obtain ⟨stopped, joined⟩ := sound.staged.late (by simp [stage])
    refine ⟨sound.intake, ?_, fun _ _ => stopped, fun _ _ _ => joined, by rintro ⟨⟩⟩
    exact sound.shut joined (fun isOpen => by cases isOpen.1) rfl rfl rfl ⟨rfl, rfl⟩
  | returned stage ended =>
    obtain ⟨stopped, joined⟩ := sound.staged.late (by simp [stage])
    exact ⟨sound.intake, sound.archival, fun _ _ => stopped, fun _ _ _ => joined, fun _ => ended⟩
  | elsewhere => exact sound.of_same rfl rfl rfl

/-! ## The start and the end -/

theorem sound_start (settings : PipelineSettings) (services : Services)
    (fresh : services.archive = .start settings.archive services.now) :
    (start settings services).Sound := by
  have idle : ∀ worker ∈ (start settings services).archival.workers, worker = .idle :=
    fun worker member => List.eq_of_mem_replicate member
  have unqueued : (start settings services).archival.workers.filterMap Worker.queued? = [] :=
    List.filterMap_eq_nil_iff.mpr fun worker member => by rw [idle worker member]; rfl
  have archive : (start settings services).archival.archive = .start settings.archive services.now :=
    fresh
  refine ⟨Intake.sound_start settings services, ?_,
    fun going => absurd rfl going, fun going => absurd rfl going, by rintro ⟨⟩⟩
  refine ⟨?_, fun _ => ?_, fun signal result member => ?_, ?_, ?_,
    fun _ member => absurd member List.not_mem_nil⟩
  · rw [archive]
    exact (Writer.sound_start settings.archive services.now).1
  · rw [archive]
    exact ⟨rfl, rfl⟩
  · cases idle _ member
  · rw [archive, Archival.items, unqueued]
    rfl
  · rw [archive]
    rfl

/-- Workers come and go in their places. -/
theorem workers_after (event : Event) :
    (d.after event).pipeline.workers.length = d.pipeline.workers.length := by
  have happened := d.happened event
  generalize d.after event = d' at happened ⊢
  cases happened with
  | dispatched step => exact congrArg (fun v => v.workers.length) (archival_dispatched step)
  | worked step =>
    cases step with
    | parks => rfl
    | _ => exact List.length_set
  | _ => rfl

theorem manned_after (manned : d.pipeline.workers ≠ []) (event : Event) :
    (d.after event).pipeline.workers ≠ [] := by
  have positive := List.length_pos_iff.mpr manned
  exact List.length_pos_iff.mp ((workers_after event).symm ▸ positive)

end Daemon

namespace Intake

variable {v : Intake}

/-- Once the dispatcher has stopped and the workers are gone, every signal that entered the queue has been
processed. -/
theorem Sound.settled (sound : v.Sound) (stopped : v.dispatcher.phase = .stopped)
    (joined : v.workers.all Worker.isGone = true) (manned : v.workers ≠ []) :
    ∃ entered dropped, signals v.read = entered ++ dropped ∧
      (entered.length = v.dispatcher.dispatched ∨
        entered.length = v.dispatcher.dispatched + 1 ∧ dropped = []) ∧
      entered.Perm (v.finished.map Prod.fst) ∧
      dropped.length ≤ 1 ∧ (dropped = [] ∨ dropped = v.pending) := by
  have gone (worker : Worker) (member : worker ∈ v.workers) : worker.isGone = true :=
    List.all_eq_true.mp joined worker member
  have free : v.dispatcher.phase.carries = false := by rw [stopped]; rfl
  have spent : v.queue.signals = [] := by
    obtain ⟨worker, member⟩ := List.exists_mem_of_ne_nil _ manned
    exact (sound.gone worker member (gone worker member)).2
  have idle : v.workers.filterMap Worker.signal? = [] := by
    refine List.filterMap_eq_nil_iff.mpr fun worker member => ?_
    have here := gone worker member
    cases worker <;> first | rfl | simp [Worker.isGone] at here
  have noticed : v.queue.unnoticed = 0 := WorkQueue.unnoticed_eq_zero (sound.handing.mpr free)
  obtain ⟨dropped, lost, entered, spread, perm, counted⟩ := sound.flow
  rw [sound.empty free, List.append_nil] at spread
  rw [taken, idle, spent, List.append_nil, List.append_nil] at perm
  rw [Intake.Counted, noticed, Nat.add_zero] at counted
  refine ⟨entered, dropped, spread, counted.imp_right And.right, perm, ?_, lost.imp_right And.right⟩
  rcases lost with rfl | ⟨-, rfl⟩
  · exact Nat.zero_le _
  · exact sound.single

end Intake

namespace Archival

variable {v : Archival}

/-- Once the workers are gone and the archive has ended, what was submitted is what was sent. -/
theorem Sound.settled (sound : v.Sound) (joined : v.Joined) (ended : v.archive.phase = .stopped) :
    v.archive.sent.Perm (v.finished.filterMap archived) := by
  have idle : v.workers.filterMap Worker.queued? = [] := by
    refine List.filterMap_eq_nil_iff.mpr fun worker member => ?_
    have here := List.all_eq_true.mp joined worker member
    cases worker <;> first | rfl | simp [Worker.isGone] at here
  obtain ⟨queue, buffer⟩ := sound.writer.spent (.inr (by rw [Writer.mode?, ended]))
  have given := sound.given
  rwa [Writer.given, items, queue, buffer, idle, List.append_nil, List.append_nil,
    List.append_nil] at given

end Archival

end Heartbeat
