import Heartbeat.Proofs.Pipeline.Steps

/-! From the topic to the workers. In whatever order the dispatcher and the workers go on, the signals that
were read are those that the workers have taken, those in the queue, and at most one at the end: while
the dispatcher runs it waits for room, and once the dispatcher has stopped it is the one that waited when
the cancellation stopped it. The dispatcher counts those that it finds taken. One that is taken between its
last two looks goes uncounted. -/
namespace Heartbeat

/-- The signal that a worker is at. -/
def Worker.signal? : Worker → Option Signal
  | .busy signal _ => some signal
  | _ => none

/-- The signals that payloads hold, in their order. -/
def signals (payloads : List Bytes) : List Signal :=
  payloads.filterMap fun payload => (Signal.decode payload).toOption

theorem signals_append (left right : List Bytes) :
    signals (left ++ right) = signals left ++ signals right := List.filterMap_append ..

/-- The way of a signal from the topic to the end of its processing. -/
structure Intake where
  dispatcher : Dispatcher
  queue : WorkQueue
  workers : List Worker
  finished : List (Signal × Except ProcessFault Processed)
  read : List Bytes
  pending : List Signal

/-- A daemon's intake. -/
def Daemon.intake (d : Daemon) : Intake where
  dispatcher := d.pipeline.dispatcher
  queue := d.pipeline.queue
  workers := d.pipeline.workers
  finished := d.pipeline.finished
  read := d.read
  pending := d.pending

namespace Intake

variable {v : Intake} {i : Nat}

/-- The signals that workers have taken out of the queue. -/
def taken (v : Intake) : List Signal := v.finished.map Prod.fst ++ v.workers.filterMap Worker.signal?

/-- The dispatcher has counted those that entered the queue, but for one that it has still to notice, or that
was taken as it stopped. -/
def Counted (v : Intake) (entered dropped : List Signal) : Prop :=
  entered.length = v.dispatcher.dispatched + v.queue.unnoticed ∨
    v.dispatcher.phase = .stopped ∧ entered.length = v.dispatcher.dispatched + 1 ∧ dropped = []

/-- How the signals that were read are spread. -/
structure Flow (v : Intake) (dropped : List Signal) : Prop where
  lost : dropped = [] ∨ v.dispatcher.phase = .stopped ∧ dropped = v.pending
  entered : ∃ entered, signals v.read = entered ++ v.queue.waiting ++ dropped ∧
    entered.Perm (v.taken ++ v.queue.signals) ∧ v.Counted entered dropped

/-- The invariant of the intake. -/
structure Sound (v : Intake) : Prop where
  served : v.queue.served = true
  handing : v.queue.held = .nothing ↔ v.dispatcher.phase.carries = false
  fed : v.queue.fed = false ↔ v.dispatcher.phase = .stopped
  gone : ∀ worker ∈ v.workers, worker.isGone = true → v.queue.fed = false ∧ v.queue.signals = []
  single : v.pending.length ≤ 1
  running : v.dispatcher.phase ≠ .stopped → v.pending = []
  flow : ∃ dropped, v.Flow dropped

/-- While the dispatcher runs nothing is dropped, and all that entered is counted or has still to be noticed. -/
theorem Sound.whole (sound : v.Sound) (running : v.dispatcher.phase ≠ .stopped) :
    ∃ entered, signals v.read = entered ++ v.queue.waiting ∧ entered.Perm (v.taken ++ v.queue.signals) ∧
      entered.length = v.dispatcher.dispatched + v.queue.unnoticed := by
  obtain ⟨dropped, lost, entered, split, perm, counted⟩ := sound.flow
  obtain rfl : dropped = [] := lost.resolve_right fun stopped => running stopped.1
  rw [List.append_nil] at split
  exact ⟨entered, split, perm, counted.resolve_right fun stopped => running stopped.1⟩

theorem Sound.empty (sound : v.Sound) (free : v.dispatcher.phase.carries = false) : v.queue.waiting = [] :=
  WorkQueue.waiting_eq_nil (sound.handing.mpr free)

/-- The dispatcher goes on with what it has in its hands. -/
theorem Sound.turn (sound : v.Sound) (running : v.dispatcher.phase ≠ .stopped) (dispatcher : Dispatcher)
    (read : List Bytes) (same : dispatcher.phase.carries = v.dispatcher.phase.carries)
    (goes : dispatcher.phase ≠ .stopped) (dispatched : dispatcher.dispatched = v.dispatcher.dispatched)
    (blank : signals read = []) : { v with dispatcher, read := v.read ++ read }.Sound where
  served := sound.served
  handing := by rw [same]; exact sound.handing
  fed := by
    have fed := sound.fed
    exact ⟨fun unfed => absurd (fed.mp unfed) running, fun stopped => absurd stopped goes⟩
  gone := sound.gone
  single := sound.single
  running _ := sound.running running
  flow := by
    obtain ⟨entered, split, perm, counted⟩ := sound.whole running
    refine ⟨[], .inl rfl, entered, ?_, perm, .inl ?_⟩
    · rw [signals_append, blank, List.append_nil, List.append_nil]
      exact split
    · rw [dispatched]
      exact counted

/-- The dispatcher stops, and what waits for room is dropped. -/
theorem Sound.stop (sound : v.Sound) (running : v.dispatcher.phase ≠ .stopped) :
    { v with
      dispatcher := { v.dispatcher with phase := .stopped }
      queue := v.queue.finish
      pending := v.queue.waiting }.Sound where
  served := sound.served
  handing := ⟨fun _ => rfl, fun _ => rfl⟩
  fed := ⟨fun _ => rfl, fun _ => rfl⟩
  gone worker member gone := ⟨rfl, (sound.gone worker member gone).2⟩
  single := v.queue.waiting_length
  running goes := absurd rfl goes
  flow := by
    obtain ⟨entered, split, perm, counted⟩ := sound.whole running
    refine ⟨v.queue.waiting, .inr ⟨rfl, rfl⟩, entered, ?_, perm, ?_⟩
    · rw [split]
      simp [WorkQueue.finish, WorkQueue.waiting]
    · -- a signal that was taken since the dispatcher last looked is not counted any more
      by_cases accepted : v.queue.held = .accepted
      · refine .inr ⟨rfl, ?_, by simp [WorkQueue.waiting, accepted]⟩
        rw [counted, WorkQueue.unnoticed, if_pos accepted]
      · refine .inl ?_
        rw [counted, WorkQueue.unnoticed, if_neg accepted]
        rfl

/-- The dispatcher stops with empty hands. -/
theorem Sound.rest (sound : v.Sound) (running : v.dispatcher.phase ≠ .stopped)
    (free : v.dispatcher.phase.carries = false) :
    { v with
      dispatcher := { v.dispatcher with phase := .stopped }, queue := v.queue.finish }.Sound := by
  have stopped := sound.stop running
  rw [sound.empty free, ← sound.running running] at stopped
  exact stopped

/-- The dispatcher has noticed that its signal was taken. -/
theorem Sound.notice (sound : v.Sound) (phase : v.dispatcher.phase = .handing)
    (accepted : v.queue.held = .accepted) :
    { v with
      dispatcher := { v.dispatcher with phase := .ready, dispatched := v.dispatcher.dispatched + 1 }
      queue := { v.queue with held := .nothing } }.Sound where
  served := sound.served
  handing := ⟨fun _ => rfl, fun _ => rfl⟩
  fed := by
    have fed := sound.fed
    simpa [phase] using fed
  gone := sound.gone
  single := sound.single
  running _ := sound.running (by simp [phase])
  flow := by
    obtain ⟨entered, split, perm, counted⟩ := sound.whole (by simp [phase])
    refine ⟨[], .inl rfl, entered, ?_, perm, .inl ?_⟩
    · simpa [WorkQueue.waiting, accepted] using split
    · simpa [WorkQueue.unnoticed, accepted] using counted

/-- The dispatcher has read a signal and offers it. -/
theorem Sound.offer (sound : v.Sound) (phase : v.dispatcher.phase = .asking) {payload : Bytes}
    {signal : Signal} (decoded : Signal.decode payload = .ok signal) :
    { v with
      dispatcher := { v.dispatcher with phase := v.queue.offerPhase signal }
      queue := v.queue.offer signal
      read := v.read ++ [payload] }.Sound := by
  have fed : v.queue.fed = true := by simpa [phase] using sound.fed
  have idle : v.queue.held = .nothing := sound.handing.mpr (by rw [phase]; rfl)
  have unmissed : v.pending = [] := sound.running (by simp [phase])
  obtain ⟨entered, split, perm, counted⟩ := sound.whole (by simp [phase])
  have read : signals (v.read ++ [payload]) = entered ++ [signal] := by
    rw [signals_append, split, WorkQueue.waiting_eq_nil idle]
    simp [signals, decoded, Except.toOption]
  have here {fine : Prop} (worker : Worker) (member : worker ∈ v.workers) (gone : worker.isGone = true) :
      fine := by
    cases fed.symm.trans (sound.gone worker member gone).1
  have settled : entered.length = v.dispatcher.dispatched := by
    rwa [WorkQueue.unnoticed_eq_zero idle] at counted
  -- a signal that is queued, whether it wakes a worker or there is room for it
  have queued (q : WorkQueue) (same : q.served = v.queue.served ∧ q.fed = v.queue.fed)
      (signals : q.signals = v.queue.signals ++ [signal]) (held : q.held = .accepted) :
      { v with
        dispatcher := { v.dispatcher with phase := if q.held = Held.accepted then .handing else .checking }
        queue := q
        read := v.read ++ [payload] }.Sound := by
    rw [if_pos held]
    refine ⟨same.1.trans sound.served, by simp [held, DispatchPhase.carries], ?_, here, sound.single,
      fun _ => unmissed, [], .inl rfl, entered ++ [signal], ?_, ?_, .inl ?_⟩
    · simp [same.2, fed]
    · simp [read, WorkQueue.waiting, held]
    · show (entered ++ [signal]).Perm (v.taken ++ q.signals)
      rw [signals, ← List.append_assoc]
      exact perm.append_right [signal]
    · simp [WorkQueue.unnoticed, held, settled]
  have offered := v.queue.offer_offered signal
  unfold WorkQueue.offerPhase
  generalize v.queue.offer signal = q at offered ⊢
  cases offered with
  | wakes => refine queued _ ?_ ?_ ?_ <;> simp
  | fits => refine queued _ ?_ ?_ ?_ <;> simp
  | waits =>
    refine ⟨sound.served, by simp [DispatchPhase.carries], by simp [fed], here, sound.single,
      fun _ => unmissed, [], .inl rfl, entered, ?_, perm, .inl ?_⟩
    · simp [read, WorkQueue.waiting]
    · simp [WorkQueue.unnoticed, settled]

/-! ## The workers -/

theorem taken_set {worker : Worker} (new : Worker) (at_ : v.workers[i]? = some worker) :
    ((worker.signal?).toList ++ (v.workers.set i new).filterMap Worker.signal?).Perm
      ((new.signal?).toList ++ v.workers.filterMap Worker.signal?) :=
  filterMap_set_perm new at_

theorem gone_set {new : Worker} {fine : Prop} (old : ∀ worker ∈ v.workers, worker.isGone = true → fine)
    (here : new.isGone = true → fine) : ∀ worker ∈ v.workers.set i new, worker.isGone = true → fine := by
  intro worker member gone
  rcases List.mem_or_eq_of_mem_set member with present | rfl
  · exact old worker present gone
  · exact here gone

/-- A worker takes a signal out of the queue. -/
theorem Sound.take (sound : v.Sound) (idle : v.workers[i]? = some .idle) {signal : Signal}
    {moved : List Signal} {queue : WorkQueue} (took : v.queue.Took signal moved queue) (phase : ProcessPhase) :
    { v with queue, workers := v.workers.set i (.busy signal phase) }.Sound := by
  have changed := taken_set (v := v) (.busy signal phase) idle
  simp only [Worker.signal?, Option.toList_none, Option.toList_some, List.nil_append] at changed
  obtain ⟨dropped, lost, entered, split, perm, counted⟩ := sound.flow
  have taken_perm : (v.finished.map Prod.fst ++ (v.workers.set i (.busy signal phase)).filterMap
      Worker.signal? ++ queue.signals).Perm (v.taken ++ (signal :: queue.signals)) := by
    rw [Intake.taken, List.append_assoc, List.append_assoc]
    refine List.Perm.append_left _ ((changed.append_right _).trans ?_)
    simpa using List.perm_middle.symm
  have unmoved : v.dispatcher.phase = .stopped → moved = [] := by
    intro stopped
    have none := took.waiting
    rw [sound.empty (by rw [stopped]; rfl)] at none
    exact (List.append_eq_nil_iff.mp none.symm).1
  refine ⟨took.served.trans sound.served, took.handing.trans sound.handing, ?_, ?_, sound.single,
    sound.running, dropped, lost, entered ++ moved, ?_, ?_, ?_⟩
  · rw [took.fed]
    exact sound.fed
  · refine gone_set (fun worker member gone => ?_) (by rintro ⟨⟩)
    -- nothing is left for a worker to take once another is gone
    obtain ⟨unfed, empty⟩ := sound.gone worker member gone
    have next := took.next
    rw [empty, unmoved (sound.fed.mp unfed)] at next
    cases next
  · rw [split, took.waiting, List.append_assoc, List.append_assoc, List.append_assoc, List.append_assoc]
  · refine (perm.append_right moved).trans ?_
    rw [List.append_assoc, took.next]
    exact taken_perm.symm
  · rcases counted with counted | ⟨stopped, counted, none⟩
    · refine .inl ?_
      rw [List.length_append, counted, took.unnoticed, Nat.add_assoc]
    · refine .inr ⟨stopped, ?_, none⟩
      rw [unmoved stopped, List.append_nil]
      exact counted

/-- A worker waits for a signal. -/
theorem Sound.park (sound : v.Sound) (worker : Nat) :
    { v with queue := v.queue.park worker }.Sound := by
  obtain ⟨parked, woken, eq⟩ := v.queue.park_eq worker
  obtain ⟨dropped, lost, entered, split, perm, counted⟩ := sound.flow
  rw [eq]
  exact ⟨sound.served, sound.handing, sound.fed, sound.gone, sound.single, sound.running,
    dropped, lost, entered, split, perm, counted⟩

/-- A worker leaves because nothing will come any more. -/
theorem Sound.leave (sound : v.Sound) (idle : v.workers[i]? = some .idle)
    (unfed : v.queue.fed = false) (empty : v.queue.signals = []) :
    { v with workers := v.workers.set i .gone }.Sound := by
  have moved := taken_set (v := v) .gone idle
  simp only [Worker.signal?, Option.toList_none, List.nil_append] at moved
  obtain ⟨dropped, lost, entered, split, perm, counted⟩ := sound.flow
  refine ⟨sound.served, sound.handing, sound.fed, gone_set sound.gone fun _ => ⟨unfed, empty⟩,
    sound.single, sound.running, dropped, lost, entered, split, perm.trans ?_, counted⟩
  exact List.Perm.append_right _ (List.Perm.append_left _ moved.symm)

theorem Sound.work (sound : v.Sound) {signal : Signal} {phase : ProcessPhase}
    (busy : v.workers[i]? = some (.busy signal phase)) (next : ProcessPhase) :
    { v with workers := v.workers.set i (.busy signal next) }.Sound := by
  have moved := taken_set (v := v) (.busy signal next) busy
  simp only [Worker.signal?, Option.toList_some, List.singleton_append] at moved
  obtain ⟨dropped, lost, entered, split, perm, counted⟩ := sound.flow
  refine ⟨sound.served, sound.handing, sound.fed, gone_set sound.gone (by rintro ⟨⟩),
    sound.single, sound.running, dropped, lost, entered, split, perm.trans ?_, counted⟩
  exact List.Perm.append_right _ (List.Perm.append_left _ moved.cons_inv.symm)

theorem Sound.finish (sound : v.Sound) {signal : Signal} {phase : ProcessPhase}
    (busy : v.workers[i]? = some (.busy signal phase)) (result : Except ProcessFault Processed) :
    { v with
      workers := v.workers.set i .idle, finished := (signal, result) :: v.finished }.Sound := by
  have moved := taken_set (v := v) .idle busy
  simp only [Worker.signal?, Option.toList_some, Option.toList_none, List.singleton_append,
    List.nil_append] at moved
  obtain ⟨dropped, lost, entered, split, perm, counted⟩ := sound.flow
  refine ⟨sound.served, sound.handing, sound.fed, gone_set sound.gone (by rintro ⟨⟩),
    sound.single, sound.running, dropped, lost, entered, split, perm.trans ?_, counted⟩
  refine List.Perm.append_right _ ?_
  simp only [Intake.taken, List.map_cons, List.cons_append]
  exact (List.Perm.append_left _ moved.symm).trans List.perm_middle

/-! ## One step -/

/-- That the intake is cancelled shows at the next look. -/
theorem Sound.cancel (sound : v.Sound) :
    { v with dispatcher := { v.dispatcher with cancelled := true } }.Sound := by
  obtain ⟨dropped, lost, flow⟩ := sound.flow
  exact ⟨sound.served, sound.handing, sound.fed, sound.gone, sound.single, sound.running,
    dropped, lost, flow⟩

theorem Sound.dispatched {d : Daemon} {p : Pipeline} {read : List Bytes} {pending : List Signal}
    (sound : d.intake.Sound) (step : d.pipeline.Dispatched read pending p) :
    { d with pipeline := p, read := d.read ++ read, pending := d.pending ++ pending }.intake.Sound := by
  have phase {phase : DispatchPhase} (here : d.pipeline.dispatcher.phase = phase) :
      d.intake.dispatcher.phase = phase := here
  -- a look that leaves the dispatcher with what it had in its hands
  have turn {before : DispatchPhase} (after : DispatchPhase) (here : d.pipeline.dispatcher.phase = before)
      (running : before ≠ .stopped) (same : after.carries = before.carries) (goes : after ≠ .stopped) :
      { d.intake with
        dispatcher := { d.pipeline.dispatcher with phase := after }
        read := d.read ++ []
        pending := d.pending ++ [] }.Sound := by
    rw [List.append_nil d.pending]
    refine sound.turn ?_ { d.pipeline.dispatcher with phase := after } [] ?_ goes rfl rfl
    · rw [phase here]
      exact running
    · rw [phase here]
      exact same
  have rest {before : DispatchPhase} (here : d.pipeline.dispatcher.phase = before) (running : before ≠ .stopped)
      (free : before.carries = false) :
      { d.intake with
        dispatcher := { d.pipeline.dispatcher with phase := .stopped }
        queue := d.pipeline.queue.finish
        read := d.read ++ []
        pending := d.pending ++ [] }.Sound := by
    rw [List.append_nil, List.append_nil]
    refine sound.rest ?_ ?_
    · rw [phase here]
      exact running
    · rw [phase here]
      exact free
  have served : d.pipeline.queue.served = true := sound.served
  cases step with
  | rest => simpa only [List.append_nil] using sound
  | ask here => rcases here with here | here <;> exact turn .asking here nofun rfl nofun
  | quit here => rcases here with here | here <;> exact rest here nofun rfl
  | await here => exact turn .reading here nofun rfl nofun
  | finish here => exact rest here nofun rfl
  | refuse here next malformed =>
    rw [List.append_nil]
    exact sound.turn (by rw [phase here]; exact nofun) _ _ (by rw [phase here]; rfl) nofun rfl
      (by simp [signals, malformed, Except.toOption])
  | offer here next decoded =>
    rw [List.append_nil]
    exact sound.offer here decoded
  | refused here next decoded unserved => cases served.symm.trans unserved
  | notice here accepted =>
    rw [List.append_nil, List.append_nil]
    exact sound.notice here accepted
  | miss here => exact turn .checking here nofun rfl nofun
  | abandon here unaccepted unserved => cases served.symm.trans unserved
  | wait here => exact turn .handing here nofun rfl nofun
  | drop here cancelled =>
    have running : d.intake.dispatcher.phase ≠ .stopped := by rw [phase here]; exact nofun
    have unmissed : d.pending = [] := sound.running running
    rw [unmissed, List.append_nil, List.nil_append]
    exact sound.stop running

theorem Sound.worked {d : Daemon} {p : Pipeline} (sound : d.intake.Sound)
    (step : d.pipeline.Worked i p) : { d with pipeline := p }.intake.Sound := by
  cases step with
  | takes idle took => exact sound.take idle took .start
  | parks => exact sound.park i
  | leaves idle unfed empty => exact sound.leave idle unfed empty
  | works busy => exact sound.work busy _
  | finishes busy => exact sound.finish busy _

theorem Sound.failed {d : Daemon} (sound : d.intake.Sound)
    (phase : d.pipeline.dispatcher.phase = .asking ∨ d.pipeline.dispatcher.phase = .reading) :
    { d with
      pipeline := Pipeline.syncTopic { d.pipeline with
        dispatcher := { d.pipeline.dispatcher with
          phase := .ready
          readErrors := d.pipeline.dispatcher.readErrors + 1 } } }.intake.Sound := by
  have running : d.intake.dispatcher.phase ≠ .stopped := by
    rcases phase with phase | phase <;> simp [Daemon.intake, phase]
  have free : d.intake.dispatcher.phase.carries = false := by
    rcases phase with phase | phase <;> simp [Daemon.intake, phase, DispatchPhase.carries]
  have turned := sound.turn running
    { d.pipeline.dispatcher with phase := .ready, readErrors := d.pipeline.dispatcher.readErrors + 1 } []
    free.symm nofun rfl rfl
  rw [List.append_nil] at turned
  exact turned

/-- **Every event keeps the intake sound.** -/
theorem Sound.after {d : Daemon} (sound : d.intake.Sound) (event : Event) :
    (d.after event).intake.Sound := by
  have happened := d.happened event
  generalize d.after event = d' at happened ⊢
  cases happened with
  | dispatched step => exact sound.dispatched step
  | failed phase => exact sound.failed phase
  | worked step => exact sound.worked step
  | cancelled => exact sound.cancel
  | begun => exact sound.cancel
  | _ => exact sound

theorem sound_start (settings : PipelineSettings) (services : Services) :
    (Daemon.start settings services).intake.Sound where
  served := rfl
  handing := ⟨fun _ => rfl, fun _ => rfl⟩
  fed := ⟨nofun, nofun⟩
  gone worker member gone := by
    have idle : worker = .idle := List.eq_of_mem_replicate member
    simp [idle, Worker.isGone] at gone
  single := Nat.zero_le _
  running _ := rfl
  flow := by
    refine ⟨[], .inl rfl, [], rfl, ?_, .inl rfl⟩
    have none : (List.replicate (max 1 settings.workers) Worker.idle).filterMap Worker.signal? = [] := by
      simp [List.filterMap_replicate, Worker.signal?]
    simp [Intake.taken, Daemon.intake, Daemon.start, Pipeline.start, none]

end Intake
end Heartbeat
