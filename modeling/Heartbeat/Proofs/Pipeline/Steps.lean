import Heartbeat.Proofs.Pipeline.Daemon

/-! What one step of the dispatcher, of a worker or of the sweeps can come to, and what an event comes to in
a daemon. The case lists are complete, and every invariant of a run is one case analysis over them. -/
namespace Heartbeat

/-! ## The queue -/

namespace WorkQueue

variable {q q' : WorkQueue} {signal : Signal} {worker : Nat}

theorem waiting_eq_nil (idle : q.held = .nothing) : q.waiting = [] := by simp [waiting, idle]

theorem waiting_length (q : WorkQueue) : q.waiting.length ≤ 1 := by
  unfold waiting
  split <;> simp

theorem mem_waiting : signal ∈ q.waiting ↔ q.held = .waiting signal := by
  unfold waiting
  split
  · rename_i other held
    rw [held, List.mem_singleton, Held.waiting.injEq, eq_comm]
  · rename_i unheld
    exact iff_of_false (List.not_mem_nil) (unheld signal)

/-- How many signals have entered the queue without the dispatcher knowing it. -/
def unnoticed (q : WorkQueue) : Nat := if q.held = .accepted then 1 else 0

theorem unnoticed_eq_zero (idle : q.held = .nothing) : q.unnoticed = 0 := by simp [unnoticed, idle]

/-- What an offer comes to: the signal is queued, or it waits behind the others. -/
inductive Offered (q : WorkQueue) (signal : Signal) : WorkQueue → Prop where
  | wakes {worker : Nat} {parked : List Nat} (first : q.parked = worker :: parked) :
      Offered q signal { q with
        signals := q.signals ++ [signal], held := .accepted, parked, woken := q.woken ++ [worker] }
  | fits (unmanned : q.parked = []) (room : q.signals.length < q.capacity) :
      Offered q signal { q with signals := q.signals ++ [signal], held := .accepted }
  | waits (unmanned : q.parked = []) (full : q.capacity ≤ q.signals.length) :
      Offered q signal { q with held := .waiting signal }

/-- Where the dispatcher stands when it has offered a signal. -/
def offerPhase (q : WorkQueue) (signal : Signal) : DispatchPhase :=
  if (q.offer signal).held = .accepted then .handing else .checking

theorem offer_offered (q : WorkQueue) (signal : Signal) : q.Offered signal (q.offer signal) := by
  unfold offer
  split
  · rename_i first
    exact .wakes first
  · rename_i unmanned
    split
    · rename_i room
      exact .fits unmanned room
    · rename_i full
      exact .waits unmanned (Nat.le_of_not_lt full)

/-- What it means for a signal to be taken: what has moved in waited before, and the dispatcher has still to
notice it. -/
structure Took (q : WorkQueue) (signal : Signal) (moved : List Signal) (q' : WorkQueue) : Prop where
  next : q.signals ++ moved = signal :: q'.signals
  waiting : q.waiting = moved ++ q'.waiting
  room : moved = [] ∨ q.signals.length ≤ q.capacity
  served : q'.served = q.served
  fed : q'.fed = q.fed
  capacity : q'.capacity = q.capacity
  handing : q'.held = .nothing ↔ q.held = .nothing
  unnoticed : q'.unnoticed = q.unnoticed + moved.length

/-- What a look at the queue makes of it: what waits has moved in, or the queue is too long for that. -/
theorem moveIn_cases (q : WorkQueue) :
    (q.moveIn = q ∧ (q.waiting = [] ∨ q.capacity < q.signals.length)) ∨
    ∃ signal, q.held = .waiting signal ∧ q.signals.length ≤ q.capacity ∧
      q.moveIn = { q with signals := q.signals ++ [signal], held := .accepted } := by
  unfold moveIn
  split
  · rename_i signal held
    split
    · rename_i room
      exact .inr ⟨signal, held, room, rfl⟩
    · rename_i full
      exact .inl ⟨rfl, .inr (Nat.lt_of_not_le full)⟩
  · rename_i unheld
    refine .inl ⟨rfl, .inl ?_⟩
    unfold waiting
    split
    · rename_i signal held
      exact absurd held (unheld signal)
    · rfl

theorem take_some (taken : q.take = (some signal, q')) :
    ∃ moved, q.Took signal moved q' ∧ q'.parked = q.parked ∧ q'.woken = q.woken := by
  rcases q.moveIn_cases with ⟨same, -⟩ | ⟨waits, held, room, moved⟩
  · simp only [take, same] at taken
    split at taken
    · cases taken
    · rename_i next
      cases taken
      exact ⟨[], ⟨by rw [List.append_nil, next], rfl, .inl rfl, rfl, rfl, rfl, .rfl, rfl⟩, rfl, rfl⟩
  · simp only [take, moved] at taken
    split at taken
    · cases taken
    · rename_i next
      cases taken
      refine ⟨[waits], ⟨next, ?_, .inr room, rfl, rfl, rfl, ?_, ?_⟩, rfl, rfl⟩
      · simp [waiting, held]
      · simp [held]
      · simp [unnoticed, held]

/-- A look at a queue that has nothing finds it empty, and leaves it. -/
theorem take_none (empty : q.take = (none, q')) : q.signals = [] ∧ q.waiting = [] ∧ q' = q := by
  rcases q.moveIn_cases with ⟨same, full⟩ | ⟨waits, held, -, moved⟩
  · simp only [take, same] at empty
    split at empty
    · rename_i none
      cases empty
      refine ⟨none, full.resolve_right fun full => ?_, rfl⟩
      rw [none] at full
      cases full
    · cases empty
  · simp only [take, moved] at empty
    split at empty
    · rename_i none
      exact absurd none (by simp)
    · cases empty

/-! Which workers wait, and which were woken, is no matter to the signals. -/

@[simp] theorem waiting_setRoll {parked woken : List Nat} :
    ({ q with parked, woken } : WorkQueue).waiting = q.waiting := rfl

theorem depart_eq (q : WorkQueue) (worker : Nat) :
    ∃ parked woken, q.depart worker = { q with parked, woken } := by
  unfold depart
  dsimp only
  split
  · exact ⟨_, _, rfl⟩
  · exact ⟨_, _, rfl⟩

theorem park_eq (q : WorkQueue) (worker : Nat) :
    ∃ parked woken, q.park worker = { q with parked, woken } := by
  unfold park
  split
  · exact ⟨q.parked, q.woken, rfl⟩
  · exact ⟨_, _, rfl⟩

theorem ask_some (asked : q.ask worker = (some signal, q')) : ∃ moved, q.Took signal moved q' := by
  unfold ask at asked
  split at asked
  · rename_i taken
    cases asked
    obtain ⟨moved, took, -, -⟩ := take_some taken
    obtain ⟨parked, woken, eq⟩ := depart_eq _ worker
    rw [eq]
    exact ⟨moved, took.next, took.waiting, took.room, took.served, took.fed, took.capacity, took.handing,
      took.unnoticed⟩
  · cases asked

/-- A worker that finds nothing is parked, if anything may come. -/
theorem ask_none (asked : q.ask worker = (none, q')) :
    q.signals = [] ∧ q.waiting = [] ∧ q' = if q.fed then q.park worker else q := by
  unfold ask at asked
  split at asked
  · cases asked
  · rename_i none
    cases asked
    obtain ⟨signals, waiting, rfl⟩ := take_none none
    exact ⟨signals, waiting, rfl⟩

/-- A worker that finds nothing changes nothing but who waits. -/
theorem ask_none_eq (asked : q.ask worker = (none, q')) : ∃ parked woken, q' = { q with parked, woken } := by
  obtain ⟨-, -, rfl⟩ := ask_none asked
  split
  · exact q.park_eq worker
  · exact ⟨q.parked, q.woken, rfl⟩

end WorkQueue

namespace Pipeline

variable {p p' : Pipeline}

/-! ## The dispatcher -/

/-- The pipeline with its dispatcher in a phase, and the topic as it leaves it. -/
def turnDispatcher (p : Pipeline) (phase : DispatchPhase) : Pipeline :=
  syncTopic { p with dispatcher := { p.dispatcher with phase } }

/-- The pipeline with its dispatcher stopped. -/
def stopDispatcher (p : Pipeline) : Pipeline :=
  syncTopic { p with dispatcher := { p.dispatcher with phase := .stopped }, queue := p.queue.finish }

/-- The pipeline after the dispatcher has read a payload. -/
def takePayload (p : Pipeline) (dispatcher : Dispatcher) (queue : WorkQueue) (rest : List Bytes) :
    Pipeline :=
  syncTopic { p.setTopic { p.services.topic with queue := rest } with dispatcher, queue }

/-- The looks of the dispatcher, with the payloads that they read and the signals that they give up because
the intake is cancelled. -/
inductive Dispatched (p : Pipeline) : List Bytes → List Signal → Pipeline → Prop where
  /-- It has stopped. -/
  | rest (phase : p.dispatcher.phase = .stopped) : Dispatched p [] [] p
  /-- It is not cancelled. -/
  | ask (phase : p.dispatcher.phase = .ready ∨ p.dispatcher.phase = .reading)
      (going : p.dispatcher.cancelled = false) : Dispatched p [] [] (p.turnDispatcher .asking)
  /-- It is cancelled, and has nothing to hand over. -/
  | quit (phase : p.dispatcher.phase = .ready ∨ p.dispatcher.phase = .reading)
      (cancelled : p.dispatcher.cancelled = true) : Dispatched p [] [] p.stopDispatcher
  /-- There is nothing to read yet. -/
  | await (phase : p.dispatcher.phase = .asking) (empty : p.services.topic.queue = [])
      (opened : p.services.topic.publishers ≠ 0) : Dispatched p [] [] (p.turnDispatcher .reading)
  /-- There is nothing to read any more. -/
  | finish (phase : p.dispatcher.phase = .asking) (empty : p.services.topic.queue = [])
      (closed : p.services.topic.publishers = 0) : Dispatched p [] [] p.stopDispatcher
  /-- What it reads is no signal. -/
  | refuse {payload : Bytes} {rest : List Bytes} {fault : DecodeFault}
      (phase : p.dispatcher.phase = .asking) (next : p.services.topic.queue = payload :: rest)
      (malformed : Signal.decode payload = .error fault) :
      Dispatched p [payload] [] (p.takePayload
        { p.dispatcher with phase := .ready, malformed := p.dispatcher.malformed + 1 } p.queue rest)
  /-- What it reads is a signal. -/
  | offer {payload : Bytes} {rest : List Bytes} {signal : Signal}
      (phase : p.dispatcher.phase = .asking) (next : p.services.topic.queue = payload :: rest)
      (decoded : Signal.decode payload = .ok signal) (served : p.queue.served = true) :
      Dispatched p [payload] [] (p.takePayload
        { p.dispatcher with phase := p.queue.offerPhase signal } (p.queue.offer signal) rest)
  /-- What it reads is a signal that nobody will work on. -/
  | refused {payload : Bytes} {rest : List Bytes} {signal : Signal}
      (phase : p.dispatcher.phase = .asking) (next : p.services.topic.queue = payload :: rest)
      (decoded : Signal.decode payload = .ok signal) (unserved : p.queue.served = false) :
      Dispatched p [payload] [] (p.takePayload { p.dispatcher with phase := .stopped }
        p.queue.finish rest)
  /-- Its signal was taken. -/
  | notice (phase : p.dispatcher.phase = .handing) (accepted : p.queue.held = .accepted) :
      Dispatched p [] [] (syncTopic
        { p with
          dispatcher :=
            { p.dispatcher with phase := .ready, dispatched := p.dispatcher.dispatched + 1 }
          queue := { p.queue with held := .nothing } })
  /-- Its signal still waits. -/
  | miss (phase : p.dispatcher.phase = .handing) (unaccepted : p.queue.held ≠ .accepted)
      (served : p.queue.served = true) : Dispatched p [] [] (p.turnDispatcher .checking)
  /-- Its signal still waits, and nobody will work on it. -/
  | abandon (phase : p.dispatcher.phase = .handing) (unaccepted : p.queue.held ≠ .accepted)
      (unserved : p.queue.served = false) : Dispatched p [] [] p.stopDispatcher
  /-- It is not cancelled, and has still its signal to hand over. -/
  | wait (phase : p.dispatcher.phase = .checking) (going : p.dispatcher.cancelled = false) :
      Dispatched p [] [] (p.turnDispatcher .handing)
  /-- It is cancelled, and drops its signal if that is not in the queue by now. -/
  | drop (phase : p.dispatcher.phase = .checking) (cancelled : p.dispatcher.cancelled = true) :
      Dispatched p [] p.queue.waiting p.stopDispatcher

/-- A look at the topic. -/
private theorem dispatched_ask (phase : p.dispatcher.phase = .asking) :
    p.Dispatched p.nextRead p.nextDrop p.pollDispatcher := by
  have drops : p.nextDrop = [] := if_neg fun both => by cases phase.symm.trans both.1
  unfold pollDispatcher nextRead
  rw [drops, if_pos phase, if_neg (by rw [phase]; exact nofun)]
  simp only [phase, if_true, Dispatcher.poll, Topic.next?, Topic.receive]
  cases next : p.services.topic.queue with
  | nil =>
    by_cases closed : p.services.topic.publishers = 0
    · simpa [closed, Dispatcher.ask, Dispatcher.receive, Dispatcher.stop, stopDispatcher] using
        Dispatched.finish phase next closed
    · simpa [closed, Dispatcher.ask, turnDispatcher] using Dispatched.await phase next closed
  | cons payload rest =>
    cases decoded : Signal.decode payload with
    | error fault =>
      simpa [Dispatcher.ask, Dispatcher.receive, decoded, takePayload, setTopic, Services.setTopic] using
        Dispatched.refuse phase next decoded
    | ok signal =>
      cases served : p.queue.served with
      | true =>
        simpa [Dispatcher.ask, Dispatcher.receive, decoded, served, takePayload, setTopic,
          Services.setTopic, WorkQueue.offerPhase] using Dispatched.offer phase next decoded served
      | false =>
        simpa [Dispatcher.ask, Dispatcher.receive, decoded, served, takePayload, setTopic,
          Services.setTopic, Dispatcher.stop] using Dispatched.refused phase next decoded served

/-- A look at the cancellation, with empty hands. -/
private theorem dispatched_heed (phase : p.dispatcher.phase = .ready ∨ p.dispatcher.phase = .reading) :
    p.Dispatched p.nextRead p.nextDrop p.pollDispatcher := by
  have reads : p.nextRead = [] := if_neg fun asking => by
    rcases phase with phase | phase <;> cases phase.symm.trans asking
  have drops : p.nextDrop = [] := if_neg fun both => by
    rcases phase with phase | phase <;> cases phase.symm.trans both.1
  have poll : p.pollDispatcher = syncTopic { p with
      dispatcher := (p.dispatcher.heed p.queue .asking).1
      queue := (p.dispatcher.heed p.queue .asking).2 } := by
    unfold pollDispatcher
    rcases phase with phase | phase <;> simp [phase, Dispatcher.poll]
  rw [reads, drops, poll]
  cases cancelled : p.dispatcher.cancelled with
  | false => simpa [Dispatcher.heed, cancelled, turnDispatcher] using Dispatched.ask phase cancelled
  | true =>
    simpa [Dispatcher.heed, cancelled, Dispatcher.stop, stopDispatcher] using Dispatched.quit phase cancelled

/-- A look at the queue. -/
private theorem dispatched_look (phase : p.dispatcher.phase = .handing) :
    p.Dispatched p.nextRead p.nextDrop p.pollDispatcher := by
  have reads : p.nextRead = [] := if_neg fun asking => by cases phase.symm.trans asking
  have drops : p.nextDrop = [] := if_neg fun both => by cases phase.symm.trans both.1
  have poll : p.pollDispatcher = syncTopic { p with
      dispatcher := (p.dispatcher.lookAfter p.queue).1, queue := (p.dispatcher.lookAfter p.queue).2 } := by
    unfold pollDispatcher
    simp [phase, Dispatcher.poll]
  rw [reads, drops, poll]
  by_cases accepted : p.queue.held = .accepted
  · simpa [Dispatcher.lookAfter, accepted] using Dispatched.notice phase accepted
  · have looks : p.dispatcher.lookAfter p.queue =
        if p.queue.served then ({ p.dispatcher with phase := .checking }, p.queue)
        else p.dispatcher.stop p.queue := by
      unfold Dispatcher.lookAfter
      cases held : p.queue.held with
      | accepted => exact absurd held accepted
      | nothing => rfl
      | waiting => rfl
    rw [looks]
    cases served : p.queue.served with
    | true => simpa [turnDispatcher] using Dispatched.miss phase accepted served
    | false => simpa [Dispatcher.stop, stopDispatcher] using Dispatched.abandon phase accepted served

/-- A look at the cancellation, with a signal to hand over. -/
private theorem dispatched_check (phase : p.dispatcher.phase = .checking) :
    p.Dispatched p.nextRead p.nextDrop p.pollDispatcher := by
  have reads : p.nextRead = [] := if_neg fun asking => by cases phase.symm.trans asking
  have poll : p.pollDispatcher = syncTopic { p with
      dispatcher := (p.dispatcher.heed p.queue .handing).1
      queue := (p.dispatcher.heed p.queue .handing).2 } := by
    unfold pollDispatcher
    simp [phase, Dispatcher.poll]
  rw [reads, poll]
  cases cancelled : p.dispatcher.cancelled with
  | false =>
    have drops : p.nextDrop = [] := if_neg fun both => by cases cancelled.symm.trans both.2
    rw [drops]
    simpa [Dispatcher.heed, cancelled, turnDispatcher] using Dispatched.wait phase cancelled
  | true =>
    have drops : p.nextDrop = p.queue.waiting := if_pos ⟨phase, cancelled⟩
    rw [drops]
    simpa [Dispatcher.heed, cancelled, Dispatcher.stop, stopDispatcher] using Dispatched.drop phase cancelled

/-- **A look of the dispatcher** comes to one of these. -/
theorem pollDispatcher_dispatched (p : Pipeline) : p.Dispatched p.nextRead p.nextDrop p.pollDispatcher := by
  cases phase : p.dispatcher.phase with
  | ready => exact dispatched_heed (.inl phase)
  | asking => exact dispatched_ask phase
  | reading => exact dispatched_heed (.inr phase)
  | handing => exact dispatched_look phase
  | checking => exact dispatched_check phase
  | stopped =>
    have reads : p.nextRead = [] := if_neg fun asking => by cases phase.symm.trans asking
    have drops : p.nextDrop = [] := if_neg fun both => by cases phase.symm.trans both.1
    have poll : p.pollDispatcher = p := if_pos phase
    rw [reads, drops, poll]
    exact .rest phase

/-! ## The workers -/

/-- What a worker has at work. -/
inductive Worked (p : Pipeline) (i : Nat) : Pipeline → Prop where
  | takes {signal : Signal} {moved : List Signal} {queue : WorkQueue} (idle : p.workers[i]? = some .idle)
      (took : p.queue.Took signal moved queue) :
      Worked p i { p with queue, workers := p.workers.set i (.busy signal .start) }
  /-- There is nothing to do yet. -/
  | parks (idle : p.workers[i]? = some .idle) (empty : p.queue.signals = []) (unheld : p.queue.waiting = [])
      (fed : p.queue.fed = true) : Worked p i { p with queue := p.queue.park i }
  | leaves (idle : p.workers[i]? = some .idle) (unfed : p.queue.fed = false)
      (empty : p.queue.signals = []) (unheld : p.queue.waiting = []) :
      Worked p i { p with workers := p.workers.set i .gone }
  | works {signal : Signal} {phase : ProcessPhase} (busy : p.workers[i]? = some (.busy signal phase))
      (unfinished : ∀ result, (phase.step Services.backend signal p.services).1 ≠ .done result) :
      Worked p i { p with
        services := (phase.step Services.backend signal p.services).2
        workers := p.workers.set i
          (.busy signal (phase.step Services.backend signal p.services).1) }
  | finishes {signal : Signal} {phase : ProcessPhase} {result : Except ProcessFault Processed}
      (busy : p.workers[i]? = some (.busy signal phase))
      (finished : (phase.step Services.backend signal p.services).1 = .done result) :
      Worked p i { p with
        services := (phase.step Services.backend signal p.services).2
        finished := (signal, result) :: p.finished
        workers := p.workers.set i .idle }

/-- A worker that looks into the queue. -/
private theorem worked_idle {i : Nat} (idle : p.workers[i]? = some .idle)
    (step : p.stepWorkerAt? i = some p') : p.Worked i p' := by
  simp only [stepWorkerAt?, idle, Option.bind_eq_bind, Option.bind_some, Option.pure_def, stepWorker?] at step
  split at step
  · rename_i signal queue asked
    simp only [Option.bind_some, Option.some.injEq] at step
    subst step
    obtain ⟨moved, took⟩ := WorkQueue.ask_some asked
    exact .takes idle took
  · rename_i queue asked
    obtain ⟨empty, unheld, left⟩ := WorkQueue.ask_none asked
    cases fed : p.queue.fed with
    | false =>
      obtain rfl : queue = p.queue := by simpa [fed] using left
      have isOver : p.queue.isOver = true := by simp [WorkQueue.isOver, fed, empty]
      simp only [isOver, if_true, Option.bind_some, Option.some.injEq] at step
      subst step
      exact .leaves idle fed empty unheld
    | true =>
      obtain rfl : queue = p.queue.park i := by simpa [fed] using left
      obtain ⟨parked, woken, eq⟩ := p.queue.park_eq i
      have goesOn : (p.queue.park i).isOver = false := by simp [eq, WorkQueue.isOver, fed]
      simp only [goesOn, Bool.false_eq_true, if_false] at step
      split at step
      · simp at step
      · obtain ⟨inside, here⟩ := List.getElem?_eq_some_iff.mp idle
        have same : p.workers.set i .idle = p.workers := by rw [← here, List.set_getElem_self]
        simp only [Option.bind_some, Option.some.injEq, same] at step
        subst step
        exact .parks idle empty unheld fed

/-- **A step of a worker** is one of these. -/
theorem stepWorkerAt?_worked {i : Nat} (step : p.stepWorkerAt? i = some p') : p.Worked i p' := by
  cases at_ : p.workers[i]? with
  | none => simp [stepWorkerAt?, at_] at step
  | some worker =>
    cases worker with
    | gone => simp [stepWorkerAt?, at_, stepWorker?] at step
    | idle => exact worked_idle at_ step
    | busy signal phase =>
      simp only [stepWorkerAt?, at_, Option.bind_eq_bind, Option.bind_some, Option.pure_def,
        stepWorker?] at step
      split at step
      · rename_i result finished
        simp only [Option.bind_some, Option.some.injEq] at step
        subst step
        exact .finishes at_ finished
      · rename_i unfinished
        simp only [Option.bind_some, Option.some.injEq] at step
        subst step
        exact .works at_ unfinished

theorem dispatcher_of_worked {i : Nat} (step : p.Worked i p') : p'.dispatcher = p.dispatcher := by
  cases step <;> rfl

/-- A worker that does not go on writes nothing. -/
theorem nextWrite_of_stuck {i : Nat} (stuck : p.stepWorkerAt? i = none) : p.nextWrite i = [] := by
  unfold nextWrite
  split
  · rename_i signal phase busy
    simp only [stepWorkerAt?, busy, Option.bind_eq_bind, Option.bind_some, stepWorker?] at stuck
    generalize phase.step Services.backend signal p.services = after at stuck
    obtain ⟨next, services⟩ := after
    cases next <;> cases stuck
  · rfl

/-! ## The sweeps -/

/-- What the sweeps do not look at. -/
structure Beside where
  services : Services.Aside
  workers : List Worker
  finished : List (Signal × Except ProcessFault Processed)
  ended : Bool

def beside (p : Pipeline) : Beside := ⟨p.services.aside, p.workers, p.finished, p.ended⟩

/-- The pipeline with other things beside the sweeps. -/
def setBeside (p : Pipeline) (beside : Beside) : Pipeline :=
  { p with
    services := p.services.setAside beside.services
    workers := beside.workers
    finished := beside.finished
    ended := beside.ended }

theorem stepSweep?_setBeside (p : Pipeline) (beside : Beside) :
    (p.setBeside beside).stepSweep? = p.stepSweep?.map fun next => next.setBeside beside := by
  have sweeping : (p.setBeside beside).sweeping = p.sweeping := rfl
  have nextSweep : (p.setBeside beside).nextSweep = p.nextSweep := rfl
  have now : (p.setBeside beside).services.now = p.services.now := rfl
  unfold stepSweep?
  rw [sweeping, nextSweep, now]
  cases p.sweeping with
  | none =>
    cases p.nextSweep with
    | none => rfl
    | some due => by_cases ready : due ≤ p.services.now <;> simp only [ready, if_true, if_false] <;> rfl
  | some phase =>
    have step := phase.step_setAside p.services.sweepStatus p.services beside.services
    change phase.step Services.backend
      ((p.setBeside beside).services.sweepStatus, (p.setBeside beside).services) = _ at step
    simp only [step]
    generalize phase.step Services.backend (p.services.sweepStatus, p.services) = after
    obtain ⟨next, status, services⟩ := after
    cases next <;> rfl

/-- A step of the sweeps commutes with any change of what they do not look at. -/
theorem stepSweep?_changed (p : Pipeline) (change : Beside → Beside) :
    (p.setBeside (change p.beside)).stepSweep? =
      p.stepSweep?.map fun next => next.setBeside (change next.beside) := by
  have own : p.stepSweep? = p.stepSweep?.map fun next => next.setBeside p.beside :=
    p.stepSweep?_setBeside p.beside
  rw [stepSweep?_setBeside]
  cases step : p.stepSweep? with
  | none => rfl
  | some next =>
    rw [step, Option.map_some, Option.some.injEq] at own
    have same : next.beside = p.beside := by rw [own]; rfl
    rw [Option.map_some, Option.map_some, same]

/-- A step of the sweeps touches the services and the sweeps alone, and of the services neither the topic
nor the archive. -/
theorem stepSweep?_keeps (step : p.stepSweep? = some p') :
    ∃ services sweeping nextSweep, p' = { p with services, sweeping, nextSweep } ∧
      services.topic = p.services.topic ∧ services.archive = p.services.archive := by
  unfold stepSweep? at step
  split at step
  · rename_i phase _
    have only := phase.step_storeOnly p.services.sweepStatus p.services
    simp only at step
    generalize phase.step Services.backend (p.services.sweepStatus, p.services) = after at step only
    obtain ⟨next, status, services⟩ := after
    cases only with | mk tracker database disturbances readings =>
    split at step <;> (cases step; exact ⟨_, _, _, rfl, rfl, rfl⟩)
  · split at step
    · cases step
    · split at step
      · cases step
        exact ⟨_, _, _, rfl, rfl, rfl⟩
      · cases step

end Pipeline

/-! ## The daemon -/

/-- What a publication comes to: the payload is behind the others, or nothing has changed. -/
theorem Topic.publish_cases (t : Topic) (payload : Bytes) :
    (t.subscribed = true ∧ (t.awaited = true ∨ t.queue.length < t.capacity) ∧
      t.publish payload = .ok { t with queue := t.queue ++ [payload], awaited := false }) ∨
    ∃ fault, t.publish payload = .error fault := by
  unfold publish
  split
  · exact .inr ⟨_, rfl⟩
  · rename_i subscribed
    split
    · rename_i room
      exact .inl ⟨by simpa using subscribed, room, rfl⟩
    · exact .inr ⟨_, rfl⟩

namespace Daemon

/-- What an event comes to. -/
inductive Happened (d : Daemon) : Event → Daemon → Prop where
  /-- Nobody was ready for it. -/
  | nothing {event : Event} : Happened d event d
  | published {payload : Bytes} (opened : d.pipeline.services.topic.publishers ≠ 0)
      (subscribed : d.pipeline.services.topic.subscribed = true) :
      Happened d (.publish payload) { d with
        pipeline := d.pipeline.setTopic { d.pipeline.services.topic with
          queue := d.pipeline.services.topic.queue ++ [payload], awaited := false }
        published := d.published ++ [payload] }
  | entered (opened : d.pipeline.services.topic.publishers ≠ 0) :
      Happened d .addPublisher { d with
        pipeline := d.pipeline.setTopic { d.pipeline.services.topic with
          publishers := d.pipeline.services.topic.publishers + 1 } }
  | left : Happened d .removePublisher { d with
      pipeline := d.pipeline.setTopic { d.pipeline.services.topic with
        publishers := d.pipeline.services.topic.publishers - 1 } }
  | dispatched {read : List Bytes} {pending : List Signal} {p : Pipeline}
      (step : d.pipeline.Dispatched read pending p) :
      Happened d .dispatch
        { d with pipeline := p, read := d.read ++ read, pending := d.pending ++ pending }
  | failed (phase : d.pipeline.dispatcher.phase = .asking ∨ d.pipeline.dispatcher.phase = .reading) :
      Happened d .readFails { d with
        pipeline := Pipeline.syncTopic { d.pipeline with
          dispatcher := { d.pipeline.dispatcher with
            phase := .ready, readErrors := d.pipeline.dispatcher.readErrors + 1 } } }
  | worked {i : Nat} {p : Pipeline} (step : d.pipeline.Worked i p) :
      Happened d (.work i) { d with
        pipeline := p, written := d.written ++ d.pipeline.nextWrite i }
  | archived (move : Archive.Move) :
      Happened d (.archive move) { d with
        pipeline := d.pipeline.setArchive
          (d.pipeline.services.archive.perform d.pipeline.services.now move) }
  | deserted (joined : d.pipeline.workers.all Worker.isGone = true) :
      Happened d .desert { d with
        pipeline := d.pipeline.setArchive { d.pipeline.services.archive with deserted := true } }
  | swept {services : Services} {sweeping : Option SweepPhase} {nextSweep : Option Nat}
      (topic : services.topic = d.pipeline.services.topic)
      (archive : services.archive = d.pipeline.services.archive) :
      Happened d .sweep { d with pipeline := { d.pipeline with services, sweeping, nextSweep } }
  | cancelled : Happened d .cancel d.cancel
  | begun (stage : d.stage = .running) : Happened d .shutdown { d.cancel with stage := .dispatcher }
  | stopped (stage : d.stage = .dispatcher) (stopped : d.pipeline.dispatcher.phase = .stopped) :
      Happened d .shutdown { d with stage := .workers }
  | joined (stage : d.stage = .workers) (joined : d.pipeline.workers.all Worker.isGone = true) :
      Happened d .shutdown { d with stage := .sweeps }
  | closed (stage : d.stage = .sweeps) :
      Happened d .shutdown { d with
        stage := .archive
        pipeline :=
          { d.pipeline.setArchive d.pipeline.services.archive.close with nextSweep := none } }
  | returned (stage : d.stage = .archive) (ended : d.pipeline.services.archive.phase = .stopped) :
      Happened d .shutdown { d with
        stage := .returned, pipeline := { d.pipeline with ended := true } }
  | elsewhere (services : Services) :
      Happened d (.elsewhere services) { d with
        pipeline := { d.pipeline with
          services := { services with
            tracker := d.pipeline.services.tracker
            topic := d.pipeline.services.topic
            archive := d.pipeline.services.archive } } }

private theorem shutdown_happened (d : Daemon) : d.Happened .shutdown d.shutdown := by
  unfold Daemon.shutdown
  split
  · rename_i stage
    exact .begun stage
  · rename_i stage
    split
    · rename_i stopped
      exact .stopped stage stopped
    · exact .nothing
  · rename_i stage
    split
    · rename_i joined
      exact .joined stage joined
    · exact .nothing
  · rename_i stage
    split
    · exact .closed stage
    · exact .nothing
  · rename_i stage
    split
    · rename_i ended
      exact .returned stage ended
    · exact .nothing
  · exact .nothing

/-- **Every event** comes to one of these. -/
theorem happened (d : Daemon) (event : Event) : d.Happened event (d.after event) := by
  cases event with
  | publish payload =>
    simp only [after, Daemon.publish]
    split
    · exact .nothing
    · rename_i opened
      rcases d.pipeline.services.topic.publish_cases payload with ⟨subscribed, -, eq⟩ | ⟨fault, eq⟩
      · rw [eq]
        exact .published opened subscribed
      · rw [eq]
        exact .nothing
  | addPublisher =>
    simp only [after, Topic.addPublisher]
    split
    · exact .nothing
    · rename_i opened
      exact .entered opened
  | removePublisher => exact .left
  | dispatch => exact .dispatched d.pipeline.pollDispatcher_dispatched
  | readFails =>
    simp only [after, Pipeline.failRead]
    split
    · rename_i phase
      exact .failed phase
    · exact .nothing
  | work i =>
    simp only [after]
    cases step : d.pipeline.stepWorkerAt? i with
    | none =>
      rw [Pipeline.nextWrite_of_stuck step, List.append_nil]
      exact .nothing
    | some p => exact .worked (Pipeline.stepWorkerAt?_worked step)
  | archive move => exact .archived move
  | desert =>
    simp only [after]
    split
    · rename_i joined
      exact .deserted joined
    · exact .nothing
  | sweep =>
    simp only [after]
    cases step : d.pipeline.stepSweep? with
    | none => exact .nothing
    | some p =>
      obtain ⟨services, sweeping, nextSweep, rfl, topic, archive⟩ := Pipeline.stepSweep?_keeps step
      exact .swept topic archive
  | cancel => exact .cancelled
  | shutdown => exact d.shutdown_happened
  | elsewhere services => exact .elsewhere services

end Daemon
end Heartbeat
