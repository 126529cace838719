import Mathlib.Data.List.Induction
import Heartbeat.Proofs.Pipeline.Intake
import Heartbeat.Proofs.Pipeline.Roll
import Heartbeat.Proofs.Pipeline.Unread

/-! From the dispatcher to the workers. Nothing is asked of the workers here: each of them may look for a signal
at any time, and each may disappear. Whatever they do, the signals that enter their queue are those that were
read, in the order of the payloads; at most the last of them is left out, and only where its send was under
way in vain. The dispatcher's counters tell how many entered and how many payloads were no signals, but for a
signal that is taken between the dispatcher's last look at it and its look at the cancellation. The queue is
longer than its capacity by no more than the workers that a signal has woken and that have not looked since. -/
namespace Heartbeat

/-! ## What a dispatcher counts -/

namespace Daemon

variable {d : Daemon}

/-- The payload is no signal. -/
def isMalformed (payload : Bytes) : Bool := !(Signal.decode payload).isOk

/-- The dispatcher has counted the payloads that are no signals, out of those it has read. -/
def Counts (d : Daemon) : Prop := d.pipeline.dispatcher.malformed = d.read.countP isMalformed

theorem Counts.dispatched {read : List Bytes} {pending : List Signal} {p : Pipeline} (counts : d.Counts)
    (step : d.pipeline.Dispatched read pending p) :
    { d with pipeline := p, read := d.read ++ read, pending := d.pending ++ pending }.Counts := by
  unfold Counts at counts ⊢
  rw [List.countP_append, ← counts]
  cases step with
  | refuse phase next malformed =>
    simp [Pipeline.syncTopic_eq, Pipeline.setTopic, Pipeline.takePayload, isMalformed, malformed,
      Except.isOk, Except.toBool]
  | offer phase next decoded =>
    simp [Pipeline.syncTopic_eq, Pipeline.setTopic, Pipeline.takePayload, isMalformed, decoded,
      Except.isOk, Except.toBool]
  | refused phase next decoded =>
    simp [Pipeline.syncTopic_eq, Pipeline.setTopic, Pipeline.takePayload, isMalformed, decoded,
      Except.isOk, Except.toBool]
  | rest => rfl
  | ask => rfl
  | quit => rfl
  | await => rfl
  | finish => rfl
  | notice => rfl
  | miss => rfl
  | abandon => rfl
  | wait => rfl
  | drop => rfl

/-- **Every event keeps the count.** -/
theorem Counts.after (counts : d.Counts) (event : Event) : (d.after event).Counts := by
  have happened := d.happened event
  generalize d.after event = d' at happened ⊢
  cases happened with
  | dispatched step => exact counts.dispatched step
  | failed => exact counts
  | worked step =>
    unfold Counts
    rw [Pipeline.dispatcher_of_worked step]
    exact counts
  | _ => exact counts

end Daemon

/-- Every payload is a signal or malformed. -/
theorem length_signals (payloads : List Bytes) :
    (signals payloads).length + payloads.countP Daemon.isMalformed = payloads.length := by
  induction payloads with
  | nil => rfl
  | cons payload payloads ih =>
    have each : signals (payload :: payloads) = signals [payload] ++ signals payloads :=
      signals_append [payload] payloads
    rw [each, List.length_append, List.countP_cons, List.length_cons, ← ih]
    cases decoded : Signal.decode payload with
    | ok signal =>
      simp only [signals, List.filterMap_cons, decoded, Except.toOption, Daemon.isMalformed, Except.isOk,
        Except.toBool, List.filterMap_nil, List.length_singleton, Bool.not_true, Bool.false_eq_true, if_false]
      omega
    | error fault =>
      simp only [signals, List.filterMap_cons, decoded, Except.toOption, Daemon.isMalformed, Except.isOk,
        Except.toBool, List.filterMap_nil, List.length_nil, Bool.not_false, if_true]
      omega

theorem WorkQueue.capacity_offer (q : WorkQueue) (signal : Signal) :
    (q.offer signal).capacity = q.capacity := by
  have offered := q.offer_offered signal
  generalize q.offer signal = q' at offered ⊢
  cases offered <;> rfl

theorem WorkQueue.signals_offer (q : WorkQueue) (signal : Signal) :
    q.signals <+: (q.offer signal).signals := by
  have offered := q.offer_offered signal
  generalize q.offer signal = q' at offered ⊢
  cases offered with
  | wakes => exact List.prefix_append _ _
  | fits => exact List.prefix_append _ _
  | waits => exact List.prefix_refl _

/-! ## Workers of whom nothing is known -/

/-- A daemon with workers that do as they like. -/
structure Handover where
  daemon : Daemon
  /-- The signals that workers have received, in their order. -/
  received : List Signal := []
  /-- The signals that were queued when the last worker disappeared. -/
  abandoned : List Signal := []
  /-- The workers that have disappeared, by their numbers. -/
  absent : List Nat := []

namespace Handover

/-- Something that happens at the handover. -/
inductive Event where
  /-- What happens in the daemon. Its own workers take no steps. -/
  | daemon (event : Heartbeat.Event)
  /-- The worker of the given number looks for a signal, and waits if there is none. -/
  | receive (i : Nat)
  /-- The worker of the given number disappears. -/
  | vanish (i : Nat)

def start (settings : PipelineSettings) (services : Services) : Handover where
  daemon := .start settings services

def dispatcher (h : Handover) : Dispatcher := h.daemon.pipeline.dispatcher

def queue (h : Handover) : WorkQueue := h.daemon.pipeline.queue

def topic (h : Handover) : Topic := h.daemon.pipeline.services.topic

/-- How many workers there were at the start. -/
def workers (h : Handover) : Nat := h.daemon.pipeline.workers.length

/-- What the handover is about. -/
structure Line where
  dispatcher : Dispatcher
  queue : WorkQueue
  read : List Bytes
  received : List Signal
  abandoned : List Signal

def line (h : Handover) : Line where
  dispatcher := h.dispatcher
  queue := h.queue
  read := h.daemon.read
  received := h.received
  abandoned := h.abandoned

/-- The signals that have entered the queue, in their order. -/
def Line.entered (l : Line) : List Signal := l.received ++ l.abandoned ++ l.queue.signals

def entered (h : Handover) : List Signal := h.line.entered

def setQueue (h : Handover) (queue : WorkQueue) : Handover :=
  { h with daemon := { h.daemon with pipeline := { h.daemon.pipeline with queue } } }

/-- The worker of the given number has not disappeared. -/
def Present (h : Handover) (i : Nat) : Prop := i < h.workers ∧ i ∉ h.absent

instance (h : Handover) (i : Nat) : Decidable (h.Present i) := inferInstanceAs (Decidable (_ ∧ _))

def receive (h : Handover) (i : Nat) : Handover :=
  if h.Present i then
    { h.setQueue (h.queue.ask i).2 with received := h.received ++ (h.queue.ask i).1.toList }
  else h

/-- A worker disappears, and with the last one all that was queued. -/
def vanish (h : Handover) (i : Nat) : Handover :=
  if h.Present i then
    if h.absent.length + 1 < h.workers then
      { h.setQueue (h.queue.depart i) with absent := h.absent ++ [i] }
    else
      { h.setQueue h.queue.abandon with
        abandoned := h.abandoned ++ h.queue.signals, absent := h.absent ++ [i] }
  else h

/-- The handover after an event. -/
def after (h : Handover) : Event → Handover
  | .daemon (.work _) => h
  | .daemon event => { h with daemon := h.daemon.after event }
  | .receive i => h.receive i
  | .vanish i => h.vanish i

/-- The handover after a run of events. -/
def run (h : Handover) (events : List Event) : Handover := events.foldl after h

/-- What an event comes to. -/
inductive Happened (h : Handover) : Event → Handover → Prop where
  /-- Nobody was ready for it. -/
  | nothing {event : Event} : Happened h event h
  | daemon {event : Heartbeat.Event} (others : ∀ i, event ≠ .work i) :
      Happened h (.daemon event) { h with daemon := h.daemon.after event }
  | received {i : Nat} {signal : Signal} {queue : WorkQueue} (present : h.Present i)
      (asked : h.queue.ask i = (some signal, queue)) :
      Happened h (.receive i) { h.setQueue queue with received := h.received ++ [signal] }
  /-- There was nothing to receive. -/
  | looked {i : Nat} {queue : WorkQueue} (present : h.Present i) (asked : h.queue.ask i = (none, queue)) :
      Happened h (.receive i) (h.setQueue queue)
  | departed {i : Nat} (present : h.Present i) (others : h.absent.length + 1 < h.workers) :
      Happened h (.vanish i) { h.setQueue (h.queue.depart i) with absent := h.absent ++ [i] }
  /-- No worker is left. -/
  | vanished {i : Nat} (present : h.Present i) (alone : h.workers ≤ h.absent.length + 1) :
      Happened h (.vanish i) { h.setQueue h.queue.abandon with
        abandoned := h.abandoned ++ h.queue.signals, absent := h.absent ++ [i] }

/-- **Every event** comes to one of these. -/
theorem happened (h : Handover) (event : Event) : h.Happened event (h.after event) := by
  cases event with
  | daemon event =>
    cases event with
    | work => exact .nothing
    | _ => exact .daemon (by simp)
  | receive i =>
    simp only [after, receive]
    split
    · rename_i present
      rcases asked : h.queue.ask i with ⟨_ | signal, queue⟩
      · simp only [Option.toList_none, List.append_nil]
        exact .looked present asked
      · exact .received present asked
    · exact .nothing
  | vanish i =>
    simp only [after, vanish]
    split
    · rename_i present
      split
      · rename_i others
        exact .departed present others
      · rename_i alone
        exact .vanished present (Nat.le_of_not_lt alone)
    · exact .nothing

/-- The send of a signal waits, or is the next thing to happen, and it is in vain: the intake was cancelled
while it waited, or there is no worker left. -/
def InVain (h : Handover) (signal : Signal) : Prop :=
  (h.queue.held = .waiting signal ∧
    (h.dispatcher.phase = .checking ∧ h.dispatcher.cancelled = true ∨
      h.dispatcher.phase = .handing ∧ h.queue.served = false)) ∨
  (h.dispatcher.phase = .asking ∧
    (∃ payload rest, h.topic.queue = payload :: rest ∧ Signal.decode payload = .ok signal) ∧
    h.queue.served = false)

/-- A signal that waited when the dispatcher looked has entered the queue since, and the intake is cancelled:
the dispatcher will not look again. -/
def Overtaken (h : Handover) : Prop :=
  h.dispatcher.phase = .checking ∧ h.dispatcher.cancelled = true ∧ h.queue.held = .accepted

/-! ## The invariant -/

/-- The last payload that was read is this signal. -/
def EndsWith (read : List Bytes) (signal : Signal) : Prop :=
  ∃ earlier payload, read = earlier ++ [payload] ∧ Signal.decode payload = .ok signal

namespace Line

variable {vain : Signal → Prop} {missed : Prop} {l : Line} {phase : DispatchPhase}

/-- Nothing was dropped, or the last signal that was read, whose send was in vain. -/
def Dropped (vain : Signal → Prop) (l : Line) (dropped : List Signal) : Prop :=
  dropped = [] ∨ l.dispatcher.phase = .stopped ∧
    ∃ signal, dropped = [signal] ∧ EndsWith l.read signal ∧ vain signal

/-- The dispatcher has counted what entered, but for the signal that it has still to notice, or that it has
missed. -/
def Counted (missed : Prop) (l : Line) (dropped : List Signal) : Prop :=
  l.entered.length = l.dispatcher.dispatched + l.queue.unnoticed ∨
    l.dispatcher.phase = .stopped ∧ l.entered.length = l.dispatcher.dispatched + 1 ∧ dropped = [] ∧ missed

/-- The invariant of the handover. -/
structure Sound (vain : Signal → Prop) (missed : Prop) (l : Line) : Prop where
  handing : l.queue.held = .nothing ↔ l.dispatcher.phase.carries = false
  waiting : ∀ signal, l.queue.held = .waiting signal → EndsWith l.read signal
  flow : ∃ dropped, signals l.read = l.entered ++ l.queue.waiting ++ dropped ∧
    l.Dropped vain dropped ∧ l.Counted missed dropped

theorem Sound.idle (sound : l.Sound vain missed) (free : l.dispatcher.phase.carries = false) :
    l.queue.held = .nothing := sound.handing.mpr free

/-- As long as the dispatcher stands where it does not stop, nothing is dropped, and all that entered is counted
or has still to be noticed. -/
theorem Sound.whole (sound : l.Sound vain missed) (here : l.dispatcher.phase = phase)
    (running : phase ≠ .stopped) :
    signals l.read = l.entered ++ l.queue.waiting ∧
      l.entered.length = l.dispatcher.dispatched + l.queue.unnoticed := by
  obtain ⟨dropped, flow, lost, counted⟩ := sound.flow
  obtain rfl : dropped = [] := lost.resolve_right fun stopped => running (here.symm.trans stopped.1)
  rw [List.append_nil] at flow
  exact ⟨flow, counted.resolve_right fun stopped => running (here.symm.trans stopped.1)⟩

/-- With empty hands nothing waits that could be the last signal. -/
theorem Sound.of_idle (idle : l.queue.held = .nothing) (free : l.dispatcher.phase.carries = false)
    (flow : ∃ dropped, signals l.read = l.entered ++ l.queue.waiting ++ dropped ∧
      l.Dropped vain dropped ∧ l.Counted missed dropped) : l.Sound vain missed where
  handing := ⟨fun _ => free, fun _ => idle⟩
  waiting signal waits := by cases idle.symm.trans waits
  flow := flow

/-- The dispatcher goes on with what it has in its hands. -/
theorem Sound.turn (sound : l.Sound vain missed) (here : l.dispatcher.phase = phase)
    (running : phase ≠ .stopped) (dispatcher : Dispatcher) (read : List Bytes)
    (same : dispatcher.phase.carries = phase.carries)
    (dispatched : dispatcher.dispatched = l.dispatcher.dispatched)
    (blank : read = [] ∨ phase.carries = false ∧ signals read = []) :
    { l with dispatcher, read := l.read ++ read }.Sound vain missed := by
  obtain ⟨flow, counted⟩ := sound.whole here running
  subst here
  have nothing : signals read = [] := by
    rcases blank with rfl | ⟨-, blank⟩
    · rfl
    · exact blank
  refine ⟨by rw [same]; exact sound.handing, fun signal waits => ?_, [], ?_, .inl rfl, .inl ?_⟩
  · rcases blank with rfl | ⟨free, -⟩
    · rw [List.append_nil]
      exact sound.waiting signal waits
    · cases (sound.idle free).symm.trans waits
  · rw [signals_append, nothing, List.append_nil, List.append_nil]
    exact flow
  · rw [dispatched]
    exact counted

/-- What waits is nothing, or the last signal that was read. -/
theorem Sound.lost_waiting (sound : l.Sound vain missed)
    (lost : ∀ signal, l.queue.held = .waiting signal → vain signal) :
    l.queue.waiting ++ signals [] = [] ∨
      ∃ signal, l.queue.waiting ++ signals [] = [signal] ∧ EndsWith (l.read ++ []) signal ∧ vain signal := by
  rw [List.append_nil]
  show l.queue.waiting ++ [] = [] ∨ ∃ signal, l.queue.waiting ++ [] = [signal] ∧ _
  rw [List.append_nil]
  cases held : l.queue.held with
  | waiting signal =>
    refine .inr ⟨signal, ?_, sound.waiting signal held, lost signal held⟩
    simp [WorkQueue.waiting, held]
  | nothing => exact .inl (WorkQueue.waiting_eq_nil held)
  | accepted => exact .inl (by simp [WorkQueue.waiting, held])

/-- The dispatcher stops. What waited, or what it has just read, is dropped; and it has not noticed what was
taken since it last looked. -/
theorem Sound.stop (sound : l.Sound vain missed) (here : l.dispatcher.phase = phase)
    (running : phase ≠ .stopped) (read : List Bytes)
    (lost : l.queue.waiting ++ signals read = [] ∨
      ∃ signal, l.queue.waiting ++ signals read = [signal] ∧ EndsWith (l.read ++ read) signal ∧ vain signal)
    (taken : l.queue.held = .accepted → missed ∧ signals read = []) :
    { l with
      dispatcher := { l.dispatcher with phase := .stopped }
      queue := l.queue.finish
      read := l.read ++ read }.Sound vain missed := by
  obtain ⟨flow, counted⟩ := sound.whole here running
  refine .of_idle rfl rfl ⟨l.queue.waiting ++ signals read, ?_, lost.imp_right fun last => ⟨rfl, last⟩, ?_⟩
  · show _ = l.entered ++ [] ++ _
    rw [signals_append, flow, List.append_nil, List.append_assoc]
  · by_cases accepted : l.queue.held = .accepted
    · obtain ⟨missed, none⟩ := taken accepted
      refine .inr ⟨rfl, ?_, by simp [WorkQueue.waiting, accepted, none], missed⟩
      rw [WorkQueue.unnoticed, if_pos accepted] at counted
      exact counted
    · refine .inl ?_
      rw [WorkQueue.unnoticed, if_neg accepted] at counted
      exact counted

/-- The dispatcher stops with empty hands. -/
theorem Sound.rest (sound : l.Sound vain missed) (here : l.dispatcher.phase = phase)
    (running : phase ≠ .stopped) (free : phase.carries = false) (read : List Bytes)
    (lost : signals read = [] ∨
      ∃ signal, signals read = [signal] ∧ EndsWith (l.read ++ read) signal ∧ vain signal) :
    { l with
      dispatcher := { l.dispatcher with phase := .stopped }
      queue := l.queue.finish
      read := l.read ++ read }.Sound vain missed := by
  have idle := sound.idle (here ▸ free)
  refine sound.stop here running read ?_ fun accepted => by cases idle.symm.trans accepted
  rwa [WorkQueue.waiting_eq_nil idle, List.nil_append]

/-- The dispatcher has noticed that the queue has taken its signal. -/
theorem Sound.notice (sound : l.Sound vain missed) (here : l.dispatcher.phase = .handing)
    (accepted : l.queue.held = .accepted) :
    { l with
      dispatcher := { l.dispatcher with phase := .ready, dispatched := l.dispatcher.dispatched + 1 }
      queue := { l.queue with held := .nothing } }.Sound vain missed := by
  obtain ⟨flow, counted⟩ := sound.whole here nofun
  rw [WorkQueue.unnoticed, if_pos accepted] at counted
  refine .of_idle rfl rfl ⟨[], ?_, .inl rfl, .inl counted⟩
  rw [List.append_nil, flow]
  simp [WorkQueue.waiting, accepted, entered]

/-- The dispatcher has read a signal and sends it. -/
theorem Sound.offer (sound : l.Sound vain missed) (here : l.dispatcher.phase = .asking) {payload : Bytes}
    {signal : Signal} (decoded : Signal.decode payload = .ok signal) :
    { l with
      dispatcher := { l.dispatcher with phase := l.queue.offerPhase signal }
      queue := l.queue.offer signal
      read := l.read ++ [payload] }.Sound vain missed := by
  obtain ⟨flow, counted⟩ := sound.whole here nofun
  have idle : l.queue.held = .nothing := sound.idle (by rw [here]; rfl)
  have read : signals (l.read ++ [payload]) = l.entered ++ [signal] := by
    rw [signals_append, flow, WorkQueue.waiting_eq_nil idle]
    simp [signals, decoded, Except.toOption]
  have settled : l.entered.length = l.dispatcher.dispatched := by
    rwa [WorkQueue.unnoticed_eq_zero idle] at counted
  -- a signal that is queued, whether it wakes a worker or there is room for it
  have queued (q : WorkQueue) (signals' : q.signals = l.queue.signals ++ [signal]) (held : q.held = .accepted) :
      { l with
        dispatcher := { l.dispatcher with phase := if q.held = Held.accepted then .handing else .checking }
        queue := q
        read := l.read ++ [payload] }.Sound vain missed := by
    have all : l.received ++ l.abandoned ++ q.signals = l.entered ++ [signal] := by
      rw [signals', ← List.append_assoc]
      rfl
    rw [if_pos held]
    refine ⟨by simp [held, DispatchPhase.carries], by simp [held], [], ?_, .inl rfl, .inl ?_⟩
    · show _ = l.received ++ l.abandoned ++ q.signals ++ q.waiting ++ []
      rw [all, read]
      simp [WorkQueue.waiting, held]
    · show (l.received ++ l.abandoned ++ q.signals).length = l.dispatcher.dispatched + q.unnoticed
      rw [all, List.length_append, settled, WorkQueue.unnoticed, if_pos held]
      rfl
  have offered := l.queue.offer_offered signal
  unfold WorkQueue.offerPhase
  generalize l.queue.offer signal = q at offered ⊢
  cases offered with
  | wakes => refine queued _ ?_ ?_ <;> rfl
  | fits => refine queued _ ?_ ?_ <;> rfl
  | waits =>
    refine ⟨by simp [DispatchPhase.carries], ?_, [], ?_, .inl rfl, .inl settled⟩
    · rintro _ ⟨⟩
      exact ⟨l.read, payload, rfl, decoded⟩
    · rw [List.append_nil]
      exact read

/-- What waited and has moved in has entered the queue when a worker receives. -/
theorem entered_receive (manned : l.abandoned = []) {signal : Signal} {moved : List Signal} {queue : WorkQueue}
    (took : l.queue.Took signal moved queue) :
    l.received ++ [signal] ++ l.abandoned ++ queue.signals = l.entered ++ moved := by
  rw [entered, manned, List.append_nil, List.append_nil, List.append_assoc, List.append_assoc, took.next]
  rfl

/-- A worker receives, and what waited may have moved in. -/
theorem Sound.receive (sound : l.Sound vain missed) (manned : l.abandoned = []) {signal : Signal}
    {moved : List Signal} {queue : WorkQueue} (took : l.queue.Took signal moved queue) :
    { l with queue, received := l.received ++ [signal] }.Sound vain missed := by
  have all := entered_receive manned took
  obtain ⟨dropped, flow, lost, counted⟩ := sound.flow
  refine ⟨took.handing.trans sound.handing, fun waits held => ?_, dropped, ?_, lost, ?_⟩
  · refine sound.waiting waits (WorkQueue.mem_waiting.mp ?_)
    rw [took.waiting]
    exact List.mem_append_right _ (WorkQueue.mem_waiting.mpr held)
  · show _ = l.received ++ [signal] ++ l.abandoned ++ queue.signals ++ queue.waiting ++ dropped
    rw [all, flow, took.waiting, ← List.append_assoc l.entered]
  · show (l.received ++ [signal] ++ l.abandoned ++ queue.signals).length = _ ∨ _ ∧
      (l.received ++ [signal] ++ l.abandoned ++ queue.signals).length = _ ∧ _
    rw [all, List.length_append]
    refine counted.imp (fun counted => ?_) fun ⟨stopped, counted, last⟩ => ⟨stopped, ?_, last⟩
    · rw [counted, took.unnoticed, Nat.add_assoc]
    · -- a dispatcher that has stopped has left nothing that could move in
      have none := took.waiting
      rw [WorkQueue.waiting_eq_nil (sound.idle (by rw [stopped]; rfl))] at none
      rw [(List.append_eq_nil_iff.mp none.symm).1, List.length_nil]
      exact counted

/-- Which workers wait is no matter to the line. -/
theorem Sound.setRoll (sound : l.Sound vain missed) (parked woken : List Nat) :
    { l with queue := { l.queue with parked, woken } }.Sound vain missed :=
  ⟨sound.handing, sound.waiting, sound.flow⟩

/-- What was queued has still entered when the last worker has disappeared. -/
theorem entered_vanish (l : Line) : l.received ++ (l.abandoned ++ l.queue.signals) ++ [] = l.entered := by
  rw [List.append_nil, ← List.append_assoc]
  rfl

/-- The last worker disappears. -/
theorem Sound.vanish (sound : l.Sound vain missed) :
    { l with
      queue := l.queue.abandon
      abandoned := l.abandoned ++ l.queue.signals }.Sound vain missed := by
  have all := l.entered_vanish
  obtain ⟨dropped, flow, lost, counted⟩ := sound.flow
  refine ⟨sound.handing, sound.waiting, dropped, ?_, lost, ?_⟩
  · show _ = l.received ++ (l.abandoned ++ l.queue.signals) ++ [] ++ l.queue.waiting ++ dropped
    rw [all]
    exact flow
  · unfold Counted Line.entered at counted ⊢
    show (l.received ++ (l.abandoned ++ l.queue.signals) ++ []).length = _ ∨ _ ∧
      (l.received ++ (l.abandoned ++ l.queue.signals) ++ []).length = _ ∧ _
    rw [all]
    exact counted

end Line

/-! ## One event -/

variable {h : Handover} {vain : Signal → Prop} {missed : Prop}

theorem sound_dispatched {read : List Bytes} {pending : List Signal} {p : Pipeline}
    (sound : h.line.Sound vain missed) (seen : ∀ signal, h.InVain signal → vain signal)
    (overtaken : h.Overtaken → missed) (step : h.daemon.pipeline.Dispatched read pending p) :
    { h with
      daemon := { h.daemon with
        pipeline := p
        read := h.daemon.read ++ read
        pending := h.daemon.pending ++ pending } }.line.Sound vain missed := by
  -- a look that leaves the dispatcher with what it had in its hands
  have turn {before : DispatchPhase} (after : DispatchPhase) (here : h.dispatcher.phase = before)
      (running : before ≠ .stopped) (same : after.carries = before.carries) :
      { h.line with
        dispatcher := { h.dispatcher with phase := after }, read := h.daemon.read ++ [] }.Sound vain missed :=
    sound.turn here running { h.dispatcher with phase := after } [] same rfl (.inl rfl)
  have rest {before : DispatchPhase} (here : h.dispatcher.phase = before) (running : before ≠ .stopped)
      (free : before.carries = false) :
      { h.line with
        dispatcher := { h.dispatcher with phase := .stopped }
        queue := h.queue.finish
        read := h.daemon.read ++ [] }.Sound vain missed :=
    sound.rest here running free [] (.inl rfl)
  cases step with
  | rest =>
    rw [List.append_nil]
    exact sound
  | ask here => rcases here with here | here <;> exact turn .asking here nofun rfl
  | quit here => rcases here with here | here <;> exact rest here nofun rfl
  | await here => exact turn .reading here nofun rfl
  | miss here => exact turn .checking here nofun rfl
  | wait here => exact turn .handing here nofun rfl
  | finish here => exact rest here nofun rfl
  | refuse here next malformed =>
    refine sound.turn here nofun _ _ rfl rfl (.inr ⟨rfl, ?_⟩)
    simp [signals, malformed, Except.toOption]
  | offer here next decoded => exact sound.offer here decoded
  | @refused payload rest signal here next decoded unserved =>
    refine sound.rest here nofun rfl [payload] (.inr ⟨signal, ?_, ⟨h.daemon.read, payload, rfl, decoded⟩, ?_⟩)
    · simp [signals, decoded, Except.toOption]
    · exact seen signal (.inr ⟨here, ⟨payload, rest, next, decoded⟩, unserved⟩)
  | notice here accepted =>
    rw [List.append_nil]
    exact sound.notice here accepted
  | abandon here unaccepted unserved =>
    refine sound.stop here nofun [] (sound.lost_waiting fun signal held => ?_)
      fun accepted => absurd accepted unaccepted
    exact seen signal (.inl ⟨held, .inr ⟨here, unserved⟩⟩)
  | drop here cancelled =>
    refine sound.stop here nofun [] (sound.lost_waiting fun signal held => ?_)
      fun accepted => ⟨overtaken ⟨here, cancelled, accepted⟩, rfl⟩
    exact seen signal (.inl ⟨held, .inl ⟨here, cancelled⟩⟩)

/-- What happens in the daemon keeps the handover sound. -/
theorem sound_daemon {event : Heartbeat.Event} {d : Daemon} (sound : h.line.Sound vain missed)
    (seen : event = .dispatch → ∀ signal, h.InVain signal → vain signal)
    (overtaken : event = .dispatch → h.Overtaken → missed)
    (others : ∀ i, event ≠ .work i) (happened : h.daemon.Happened event d) :
    { h with daemon := d }.line.Sound vain missed := by
  cases happened with
  | dispatched step => exact sound_dispatched sound (seen rfl) (overtaken rfl) step
  | failed phase =>
    have running : h.line.dispatcher.phase ≠ .stopped := by
      rcases phase with phase | phase <;> simp [line, dispatcher, phase]
    have free : h.line.dispatcher.phase.carries = false := by
      rcases phase with phase | phase <;> simp [line, dispatcher, phase, DispatchPhase.carries]
    have turned := sound.turn rfl running
      { h.dispatcher with phase := .ready, readErrors := h.dispatcher.readErrors + 1 } [] free.symm rfl (.inl rfl)
    rw [List.append_nil] at turned
    exact turned
  | worked => exact absurd rfl (others _)
  | cancelled => exact ⟨sound.handing, sound.waiting, sound.flow⟩
  | begun => exact ⟨sound.handing, sound.waiting, sound.flow⟩
  | _ => exact sound

/-! ## The lists of the workers -/

/-- The history of the topic, what was counted as malformed, the queue's size and the lists of the workers are
kept by whatever happens. -/
structure Kept (settings : PipelineSettings) (h : Handover) : Prop where
  history : h.daemon.History
  counts : h.daemon.Counts
  capacity : h.queue.capacity = max 1 settings.queueCapacity
  workers : h.workers = max 1 settings.workers
  rolled : h.queue.Rolled h.workers h.absent
  manned : h.absent.length < h.workers → h.abandoned = []

/-- As long as one worker is there nothing was abandoned. -/
theorem Kept.unabandoned {settings : PipelineSettings} {i : Nat} (kept : h.Kept settings) (present : h.Present i) :
    h.abandoned = [] := by
  refine kept.manned ?_
  have listed := (kept.rolled.vanish present.1 present.2).listed
  rw [List.length_append, List.length_singleton] at listed
  omega

/-- What a daemon does to the queue leaves the lists of the workers in order. -/
theorem rolled_daemon {d d' : Daemon} {event : Heartbeat.Event} {workers : Nat} {absent : List Nat}
    (rolled : d.pipeline.queue.Rolled workers absent) (others : ∀ i, event ≠ .work i)
    (happened : d.Happened event d') : d'.pipeline.queue.Rolled workers absent := by
  cases happened with
  | dispatched step =>
    cases step with
    | offer => exact rolled.offer _
    | _ => exact ⟨rolled.placed, rolled.bounded⟩
  | worked => exact absurd rfl (others _)
  | _ => exact rolled

theorem capacity_daemon {d d' : Daemon} {event : Heartbeat.Event} (others : ∀ i, event ≠ .work i)
    (happened : d.Happened event d') : d'.pipeline.queue.capacity = d.pipeline.queue.capacity := by
  cases happened with
  | dispatched step =>
    cases step with
    | offer => exact WorkQueue.capacity_offer ..
    | _ => rfl
  | worked => exact absurd rfl (others _)
  | _ => rfl

theorem workers_daemon {d d' : Daemon} {event : Heartbeat.Event} (others : ∀ i, event ≠ .work i)
    (happened : d.Happened event d') : d'.pipeline.workers = d.pipeline.workers := by
  cases happened with
  | dispatched step => cases step <;> rfl
  | worked => exact absurd rfl (others _)
  | _ => rfl

theorem Kept.after {settings : PipelineSettings} (kept : h.Kept settings) (event : Event) :
    (h.after event).Kept settings := by
  have happened := h.happened event
  generalize h.after event = h' at happened ⊢
  have apart {queue : WorkQueue} (same : queue.capacity = h.queue.capacity) :
      queue.capacity = max 1 settings.queueCapacity := same.trans kept.capacity
  cases happened with
  | nothing => exact kept
  | @daemon event others =>
    have happened := h.daemon.happened event
    have workers := workers_daemon others happened
    have same : ({ h with daemon := h.daemon.after event } : Handover).workers = h.workers := by
      unfold Handover.workers
      rw [workers]
    refine ⟨kept.history.after _, kept.counts.after _, apart (capacity_daemon others happened),
      same.trans kept.workers, ?_, ?_⟩
    · rw [same]
      exact rolled_daemon kept.rolled others happened
    · rw [same]
      exact kept.manned
  | @received i signal queue present asked =>
    obtain ⟨moved, took⟩ := WorkQueue.ask_some asked
    have rolled := kept.rolled.ask present.1 present.2
    rw [asked] at rolled
    exact ⟨kept.history.of_same rfl rfl rfl, kept.counts, apart took.capacity, kept.workers, rolled, kept.manned⟩
  | @looked i queue present asked =>
    have capacity : queue.capacity = h.queue.capacity := by
      obtain ⟨parked, woken, rfl⟩ := WorkQueue.ask_none_eq asked
      rfl
    have rolled := kept.rolled.ask present.1 present.2
    rw [asked] at rolled
    exact ⟨kept.history.of_same rfl rfl rfl, kept.counts, apart capacity, kept.workers, rolled, kept.manned⟩
  | @departed i present others =>
    have capacity : (h.queue.depart i).capacity = h.queue.capacity := by
      obtain ⟨parked, woken, eq⟩ := h.queue.depart_eq i
      rw [eq]
    refine ⟨kept.history.of_same rfl rfl rfl, kept.counts, apart capacity, kept.workers,
      kept.rolled.vanish present.1 present.2, fun _ => kept.unabandoned present⟩
  | @vanished i present alone =>
    refine ⟨kept.history.of_same rfl rfl rfl, kept.counts, kept.capacity, kept.workers,
      kept.rolled.abandon present.1 present.2, fun others => ?_⟩
    have others : (h.absent ++ [i]).length < h.workers := others
    rw [List.length_append, List.length_singleton] at others
    omega

/-- **Every event keeps the handover sound.** -/
theorem sound_after {settings : PipelineSettings} (kept : h.Kept settings) (sound : h.line.Sound vain missed)
    (event : Event) (seen : event = .daemon .dispatch → ∀ signal, h.InVain signal → vain signal)
    (overtaken : event = .daemon .dispatch → h.Overtaken → missed) :
    (h.after event).line.Sound vain missed := by
  have happened := h.happened event
  generalize h.after event = h' at happened ⊢
  cases happened with
  | nothing => exact sound
  | daemon others =>
    exact sound_daemon sound (fun dispatch => seen (congrArg Event.daemon dispatch))
      (fun dispatch => overtaken (congrArg Event.daemon dispatch)) others (h.daemon.happened _)
  | received present asked =>
    obtain ⟨moved, took⟩ := WorkQueue.ask_some asked
    exact sound.receive (kept.unabandoned present) took
  | looked present asked =>
    obtain ⟨parked, woken, rfl⟩ := WorkQueue.ask_none_eq asked
    exact sound.setRoll parked woken
  | @departed i =>
    obtain ⟨parked, woken, eq⟩ := h.queue.depart_eq i
    rw [eq]
    exact sound.setRoll parked woken
  | vanished => exact sound.vanish

/-! ## Whole runs -/

variable {settings : PipelineSettings} {services : Services}

theorem run_append (h : Handover) (events later : List Event) :
    h.run (events ++ later) = (h.run events).run later := List.foldl_append

/-- The send of a signal was in vain at some point of the run. -/
def WasInVain (start : Handover) (events : List Event) (signal : Signal) : Prop :=
  ∃ before later, events = before ++ .daemon .dispatch :: later ∧ (start.run before).InVain signal

/-- At some point of the run the dispatcher was overtaken. -/
def WasOvertaken (start : Handover) (events : List Event) : Prop :=
  ∃ before later, events = before ++ .daemon .dispatch :: later ∧ (start.run before).Overtaken

theorem kept_run (settings : PipelineSettings) (services : Services) (events : List Event) :
    ((start settings services).run events).Kept settings := by
  induction events using List.reverseRecOn with
  | nil =>
    refine ⟨Daemon.history_start settings services, rfl, rfl, List.length_replicate, ?_, fun _ => rfl⟩
    exact ⟨fun worker => Nat.zero_le _, Nat.zero_le _⟩
  | append_singleton events event ih =>
    rw [run_append]
    exact ih.after event

theorem sound_start (settings : PipelineSettings) (services : Services) (vain : Signal → Prop) (missed : Prop) :
    (start settings services).line.Sound vain missed :=
  .of_idle rfl rfl ⟨[], rfl, .inl rfl, .inl rfl⟩

theorem sound_run (settings : PipelineSettings) (services : Services) (events : List Event) :
    ((start settings services).run events).line.Sound (WasInVain (start settings services) events)
      (WasOvertaken (start settings services) events) := by
  -- what was in vain is said of the whole run, and stays fixed while the part that was played grows
  suffices sound : ∀ before later, events = before ++ later →
      ((start settings services).run before).line.Sound (WasInVain (start settings services) events)
        (WasOvertaken (start settings services) events) from
    sound events [] (List.append_nil _).symm
  intro before
  induction before using List.reverseRecOn with
  | nil => exact fun _ _ => sound_start settings services _ _
  | append_singleton before event ih =>
    intro later all
    rw [List.append_assoc] at all
    rw [run_append]
    refine sound_after (kept_run settings services before) (ih (event :: later) all) event
      (fun dispatch signal inVain => ?_) fun dispatch overtaken => ?_
    · exact ⟨before, later, dispatch ▸ all, inVain⟩
    · exact ⟨before, later, dispatch ▸ all, overtaken⟩

/-! ## After the dispatcher has stopped -/

/-- What a daemon does when its dispatcher has stopped. -/
theorem final_daemon {d d' : Daemon} {event : Heartbeat.Event} (stopped : d.pipeline.dispatcher.phase = .stopped)
    (others : ∀ i, event ≠ .work i) (happened : d.Happened event d') :
    d'.pipeline.queue = d.pipeline.queue ∧ d'.pipeline.dispatcher.phase = .stopped ∧
      d'.pipeline.dispatcher.dispatched = d.pipeline.dispatcher.dispatched := by
  have apart {phase : DispatchPhase} {fine : Prop} (here : d.pipeline.dispatcher.phase = phase)
      (running : phase ≠ .stopped) : fine := absurd (here.symm.trans stopped) running
  cases happened with
  | dispatched step =>
    cases step with
    | rest => exact ⟨rfl, stopped, rfl⟩
    | ask here => rcases here with here | here <;> exact apart here nofun
    | quit here => rcases here with here | here <;> exact apart here nofun
    | await here => exact apart here nofun
    | finish here => exact apart here nofun
    | refuse here => exact apart here nofun
    | offer here => exact apart here nofun
    | refused here => exact apart here nofun
    | notice here => exact apart here nofun
    | miss here => exact apart here nofun
    | abandon here => exact apart here nofun
    | wait here => exact apart here nofun
    | drop here => exact apart here nofun
  | failed here => rcases here with here | here <;> exact apart here nofun
  | worked => exact absurd rfl (others _)
  | _ => exact ⟨rfl, stopped, rfl⟩

/-- A dispatcher that has stopped counts no more, and nothing enters the queue. -/
theorem final_after (kept : h.Kept settings) (sound : h.line.Sound vain missed)
    (stopped : h.dispatcher.phase = .stopped) (event : Event) :
    (h.after event).dispatcher.phase = .stopped ∧
      (h.after event).dispatcher.dispatched = h.dispatcher.dispatched ∧ (h.after event).entered = h.entered := by
  have happened := h.happened event
  generalize h.after event = h' at happened ⊢
  cases happened with
  | nothing => exact ⟨stopped, rfl, rfl⟩
  | daemon others =>
    obtain ⟨queue, phase, dispatched⟩ := final_daemon stopped others (h.daemon.happened _)
    exact ⟨phase, dispatched, congrArg (fun queue => h.received ++ h.abandoned ++ queue.signals) queue⟩
  | received present asked =>
    obtain ⟨moved, took⟩ := WorkQueue.ask_some asked
    have idle : h.queue.held = .nothing := sound.idle (by rw [show h.line.dispatcher.phase = _ from stopped]; rfl)
    have unmoved := took.waiting
    rw [WorkQueue.waiting_eq_nil idle] at unmoved
    have entered := Line.entered_receive (l := h.line) (kept.unabandoned present) took
    rw [(List.append_eq_nil_iff.mp unmoved.symm).1, List.append_nil] at entered
    exact ⟨stopped, rfl, entered⟩
  | looked present asked =>
    obtain ⟨parked, woken, rfl⟩ := WorkQueue.ask_none_eq asked
    exact ⟨stopped, rfl, rfl⟩
  | @departed i =>
    obtain ⟨parked, woken, eq⟩ := h.queue.depart_eq i
    rw [eq]
    exact ⟨stopped, rfl, rfl⟩
  | vanished => exact ⟨stopped, rfl, h.line.entered_vanish⟩

/-- A dispatcher that is overtaken stops with one signal less than have entered. -/
theorem short_of_overtaken (sound : h.line.Sound vain missed) (overtaken : h.Overtaken) :
    (h.after (.daemon .dispatch)).dispatcher.phase = .stopped ∧
      (h.after (.daemon .dispatch)).entered.length = (h.after (.daemon .dispatch)).dispatcher.dispatched + 1 := by
  obtain ⟨phase, cancelled, accepted⟩ := overtaken
  obtain ⟨-, counted⟩ := sound.whole (l := h.line) phase nofun
  rw [WorkQueue.unnoticed, if_pos (show h.line.queue.held = _ from accepted)] at counted
  have stops : h.daemon.pipeline.pollDispatcher = h.daemon.pipeline.stopDispatcher := by
    have phase : h.daemon.pipeline.dispatcher.phase = .checking := phase
    have cancelled : h.daemon.pipeline.dispatcher.cancelled = true := cancelled
    unfold Pipeline.pollDispatcher Pipeline.stopDispatcher
    simp [phase, cancelled, Dispatcher.poll, Dispatcher.heed, Dispatcher.stop]
  have after : h.after (.daemon .dispatch) =
      { h with
        daemon := { h.daemon with
          pipeline := h.daemon.pipeline.stopDispatcher
          read := h.daemon.read ++ h.daemon.pipeline.nextRead
          pending := h.daemon.pending ++ h.daemon.pipeline.nextDrop } } := by
    rw [← stops]
    rfl
  rw [after]
  exact ⟨rfl, counted⟩

/-- **A dispatcher that was overtaken has returned one less than entered the queue.** -/
theorem short_run {events : List Event} (overtaken : WasOvertaken (start settings services) events) :
    ((start settings services).run events).dispatcher.phase = .stopped ∧
      ((start settings services).run events).entered.length =
        ((start settings services).run events).dispatcher.dispatched + 1 := by
  obtain ⟨before, later, rfl, overtaken⟩ := overtaken
  induction later using List.reverseRecOn with
  | nil =>
    rw [run_append]
    exact short_of_overtaken (sound_run settings services before) overtaken
  | append_singleton later event ih =>
    have all : before ++ .daemon .dispatch :: (later ++ [event]) =
        (before ++ .daemon .dispatch :: later) ++ [event] := by simp
    rw [all, run_append]
    obtain ⟨stopped, short⟩ := ih
    obtain ⟨phase, dispatched, entered⟩ := final_after (kept_run settings services _)
      (sound_run settings services _) stopped event
    refine ⟨phase, ?_⟩
    show ((Handover.after _ event).entered).length = (Handover.after _ event).dispatcher.dispatched + 1
    rw [entered, dispatched]
    exact short

/-! ## The theorem -/

/-- As long as a send is under way nothing is read. -/
theorem read_carries {d d' : Daemon} {event : Heartbeat.Event}
    (carries : d.pipeline.dispatcher.phase.carries = true) (happened : d.Happened event d') :
    d'.read = d.read := by
  cases happened with
  | dispatched step =>
    cases step with
    | refuse phase => rw [phase] at carries; cases carries
    | offer phase => rw [phase] at carries; cases carries
    | refused phase => rw [phase] at carries; cases carries
    | _ => exact List.append_nil _
  | _ => rfl

theorem reads_nothing (carries : h.dispatcher.phase.carries = true) (event : Event) :
    (h.after event).daemon.read = h.daemon.read := by
  have happened := h.happened event
  generalize h.after event = h' at happened ⊢
  cases happened with
  | daemon => exact read_carries carries (h.daemon.happened _)
  | _ => rfl

theorem signals_daemon {d d' : Daemon} {event : Heartbeat.Event} (others : ∀ i, event ≠ .work i)
    (happened : d.Happened event d') : d.pipeline.queue.signals <+: d'.pipeline.queue.signals := by
  cases happened with
  | dispatched step =>
    cases step with
    | offer => exact WorkQueue.signals_offer ..
    | _ => exact List.prefix_refl _
  | worked => exact absurd rfl (others _)
  | _ => exact List.prefix_refl _

/-- What has entered the queue stays first of what enters it. -/
theorem entered_grows (kept : h.Kept settings) (event : Event) : h.entered <+: (h.after event).entered := by
  have happened := h.happened event
  generalize h.after event = h' at happened ⊢
  cases happened with
  | nothing => exact List.prefix_refl _
  | daemon others =>
    exact (List.prefix_append_right_inj _).mpr (signals_daemon others (h.daemon.happened _))
  | received present asked =>
    obtain ⟨moved, took⟩ := WorkQueue.ask_some asked
    exact ⟨moved, (Line.entered_receive (l := h.line) (kept.unabandoned present) took).symm⟩
  | looked present asked =>
    obtain ⟨parked, woken, rfl⟩ := WorkQueue.ask_none_eq asked
    exact List.prefix_refl _
  | @departed i =>
    obtain ⟨parked, woken, eq⟩ := h.queue.depart_eq i
    rw [eq]
    exact List.prefix_refl _
  | vanished => exact ⟨[], (List.append_nil _).trans h.line.entered_vanish.symm⟩

/-- **The handover is faithful.** In a run of a daemon whose workers do as they like, the signals that have
entered the queue are those that were read, in the order of the payloads, but for the one that waits, or the
last one if the dispatcher has dropped it and stopped; that happens only where its send was under way in vain.
A dispatcher that has stopped tells how many payloads were no signals, and how many signals have entered,
or one less: that is so exactly if a signal was taken between its last look at the queue and its look at the
cancellation. The queue is longer than it may be by no more than the workers that were woken and have not
looked since, or have disappeared, and nothing is read while a send is under way. -/
theorem handover_is_faithful {events : List Event} (ran : (start settings services).run events = h) :
    h.daemon.read ++ h.topic.queue <+: h.daemon.published ∧
    (∃ dropped, signals h.daemon.read = h.entered ++ h.queue.waiting ++ dropped ∧
      (dropped = [] ∨ h.dispatcher.phase = .stopped ∧ ∃ signal, dropped = [signal] ∧
        EndsWith h.daemon.read signal ∧ WasInVain (start settings services) events signal)) ∧
    (∀ event, h.entered <+: (h.after event).entered) ∧
    (h.dispatcher.phase = .stopped →
      h.queue.waiting = [] ∧
      (h.dispatcher.dispatched = h.entered.length ∧ ¬ WasOvertaken (start settings services) events ∨
        h.dispatcher.dispatched + 1 = h.entered.length ∧ WasOvertaken (start settings services) events) ∧
      h.dispatcher.malformed = h.daemon.read.countP Daemon.isMalformed ∧
      (h.dispatcher.dispatched + h.dispatcher.malformed = h.daemon.read.length ∨
        h.dispatcher.dispatched + h.dispatcher.malformed + 1 = h.daemon.read.length)) ∧
    h.queue.signals.length ≤ max 1 settings.queueCapacity + (h.queue.woken.length + h.absent.length) ∧
    h.queue.woken.length + h.absent.length ≤ max 1 settings.workers ∧ h.queue.waiting.length ≤ 1 ∧
    (h.dispatcher.phase.carries = true → ∀ event, (h.after event).daemon.read = h.daemon.read) := by
  have sound : h.line.Sound (WasInVain (start settings services) events)
      (WasOvertaken (start settings services) events) := ran ▸ sound_run settings services events
  have kept : h.Kept settings := ran ▸ kept_run settings services events
  obtain ⟨dropped, flow, lost, counted⟩ := sound.flow
  refine ⟨kept.history.taken, ⟨dropped, flow, lost⟩, entered_grows kept, fun stopped => ?_, ?_, ?_,
    h.queue.waiting_length, reads_nothing⟩
  · have idle : h.queue.held = .nothing := sound.idle (by rw [show h.line.dispatcher.phase = _ from stopped]; rfl)
    have unheld : h.queue.waiting = [] := WorkQueue.waiting_eq_nil idle
    have malformed : h.dispatcher.malformed = h.daemon.read.countP Daemon.isMalformed := kept.counts
    have spread : (signals h.daemon.read).length = h.entered.length + dropped.length := by
      have flow : signals h.daemon.read = h.entered ++ h.queue.waiting ++ dropped := flow
      rw [flow, unheld, List.append_nil, List.length_append]
    have all := length_signals h.daemon.read
    have settled : h.entered.length = h.dispatcher.dispatched ∨
        h.entered.length = h.dispatcher.dispatched + 1 ∧ dropped = [] ∧
          WasOvertaken (start settings services) events := by
      refine counted.imp (fun counted => ?_) fun short => short.2
      have noticed : h.line.queue.unnoticed = 0 := WorkQueue.unnoticed_eq_zero idle
      rwa [noticed] at counted
    have short : dropped.length ≤ 1 := by
      rcases lost with none | ⟨-, signal, last, -⟩
      · simp [none]
      · simp [last]
    refine ⟨unheld, ?_, malformed, ?_⟩
    · rcases settled with settled | ⟨short, -, overtaken⟩
      · refine .inl ⟨settled.symm, fun overtaken => ?_⟩
        have short := (short_run overtaken).2
        rw [ran, settled] at short
        omega
      · exact .inr ⟨short.symm, overtaken⟩
    · rcases settled with settled | ⟨settled, none, -⟩
      · omega
      · rw [none, List.length_nil] at spread
        omega
  · have bounded := kept.rolled.bounded
    rwa [kept.capacity] at bounded
  · have listed := kept.rolled.listed
    rwa [kept.workers] at listed

/-! ## A signal received as the intake is cancelled -/

/-- A payload that tells of a host. -/
def heartbeat (host : String) : Bytes := Text.encode (Message.render ⟨host, 0, 1⟩)

/-- A daemon with one worker, whose queue has room for one signal. -/
def narrow : Handover := start ⟨1, 1, 1, ⟨1, 1, 1⟩, 1⟩ .plain

/-- The second signal is read behind a payload that is no signal, and finds no room. -/
def secondWaits : List Event :=
  [.daemon (.publish (heartbeat "a")), .daemon (.publish (heartbeat " "))] ++
    List.replicate 7 (.daemon .dispatch) ++ [.daemon (.publish (heartbeat "b"))] ++
    List.replicate 2 (.daemon .dispatch)

/-- A worker receives just before the intake is cancelled, and only then the dispatcher looks at the queue. -/
def lastMoment : List Event :=
  secondWaits ++ [.daemon .dispatch, .receive 0, .daemon .cancel] ++ List.replicate 2 (.daemon .dispatch)

theorem last_moment_counts :
    (narrow.run lastMoment).entered.map Signal.address = ["a", "b"] ∧
    (narrow.run lastMoment).dispatcher.dispatched = (narrow.run lastMoment).entered.length ∧
    (narrow.run lastMoment).dispatcher.malformed = 1 := by
  obtain ⟨-, -, -, stopped, -⟩ := handover_is_faithful (h := narrow.run lastMoment) rfl
  obtain ⟨-, counted, -⟩ := stopped (by decide +kernel)
  have entered : (narrow.run lastMoment).entered.map Signal.address = ["a", "b"] := by decide +kernel
  refine ⟨entered, ?_, by decide +kernel⟩
  rcases counted with ⟨dispatched, -⟩ | ⟨short, -⟩
  · exact dispatched
  · have size := congrArg List.length entered
    rw [List.length_map, ← short] at size
    exact absurd size (by decide +kernel)

/-- The dispatcher has looked at the queue when a worker receives; then it looks at the cancellation. -/
def tooLate : List Event := secondWaits ++ [.receive 0, .daemon .cancel, .daemon .dispatch]

/-- A daemon with two workers, and a queue with room for one signal. -/
def crowded : Handover := start ⟨2, 1, 1, ⟨1, 1, 1⟩, 1⟩ .plain

/-- Both workers wait when two signals are read. -/
def bothWoken : List Event :=
  [.receive 0, .receive 1, .daemon (.publish (heartbeat "a")), .daemon (.publish (heartbeat "b"))] ++
    List.replicate 5 (.daemon .dispatch)

/-- A signal that is received while the dispatcher stops is not counted, and a queue is longer than its capacity
when its signals have woken workers. -/
theorem uncounted_and_overfull :
    (narrow.run tooLate).dispatcher.phase = .stopped ∧
    (narrow.run tooLate).entered.map Signal.address = ["a", "b"] ∧
    (narrow.run tooLate).dispatcher.dispatched = 1 ∧
    crowded.queue.capacity = 1 ∧
    (crowded.run bothWoken).queue.signals.map Signal.address = ["a", "b"] := by
  refine ⟨?_, ?_, ?_, ?_, ?_⟩ <;> decide +kernel

end Handover
end Heartbeat
