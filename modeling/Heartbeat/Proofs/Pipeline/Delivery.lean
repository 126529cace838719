import Heartbeat.Proofs.Pipeline.Intake
import Heartbeat.Proofs.Pipeline.Unread

/-! An intake that is cancelled late loses nothing. As long as nobody cancels before the topic is closed and
drained, the payloads that the topic has taken are those that were read and those still in it, and no signal
waits for room when the cancellation stops the dispatcher. -/
namespace Heartbeat

namespace Topic

/-- What is left of a topic whose reader has stopped. -/
theorem sync_stopped (t : Topic) : (t.sync .stopped).subscribed = false ∧
    (t.sync .stopped).publishers = t.publishers ∧
    (t.queue = [] → (t.sync .stopped).queue = []) := by
  simp only [sync]
  split
  · exact ⟨rfl, rfl, fun _ => rfl⟩
  · rename_i gone
    exact ⟨by simpa using gone, rfl, id⟩

/-- A reader that goes on takes nothing out of the topic. -/
theorem sync_running (t : Topic) {phase : DispatchPhase} (goes : phase ≠ .stopped) :
    (t.sync phase).queue = t.queue ∧ (t.sync phase).publishers = t.publishers := by
  cases phase with
  | stopped => exact absurd rfl goes
  | _ => exact ⟨rfl, rfl⟩

end Topic

namespace Daemon

variable {d : Daemon}

/-- The topic is closed, all that was in it has been read, and none of that still waits for room. -/
structure Drained (d : Daemon) : Prop where
  closed : d.pipeline.services.topic.publishers = 0
  empty : d.pipeline.services.topic.queue = []
  unheld : d.pipeline.queue.waiting = []

instance (d : Daemon) : Decidable d.Drained :=
  decidable_of_iff (d.pipeline.services.topic.publishers = 0 ∧ d.pipeline.services.topic.queue = [] ∧
      d.pipeline.queue.waiting = [])
    ⟨fun ⟨closed, empty, unheld⟩ => ⟨closed, empty, unheld⟩,
      fun drained => ⟨drained.closed, drained.empty, drained.unheld⟩⟩

/-- Nothing is lost on the way to the worker queue. -/
structure Complete (d : Daemon) : Prop where
  whole : d.published = d.read ++ d.pipeline.services.topic.queue
  drained : d.pipeline.dispatcher.cancelled = true → d.Drained
  kept : d.pending = []
  stopped : d.pipeline.dispatcher.phase = .stopped →
    d.pipeline.services.topic.subscribed = false ∧ d.pipeline.services.topic.queue = []

/-- An event that touches neither the dispatcher nor the topic, and makes nothing wait. -/
theorem Complete.of_same {d' : Daemon} (complete : d.Complete) (published : d'.published = d.published)
    (read : d'.read = d.read) (pending : d'.pending = d.pending)
    (dispatcher : d'.pipeline.dispatcher = d.pipeline.dispatcher)
    (topic : d'.pipeline.services.topic = d.pipeline.services.topic)
    (waiting : d.pipeline.queue.waiting = [] → d'.pipeline.queue.waiting = []) : d'.Complete where
  whole := by rw [published, read, topic]; exact complete.whole
  drained cancelled := by
    obtain ⟨closed, empty, unheld⟩ := complete.drained (dispatcher ▸ cancelled)
    exact ⟨by rw [topic, closed], by rw [topic, empty], waiting unheld⟩
  kept := pending.trans complete.kept
  stopped phase := by rw [topic]; exact complete.stopped (dispatcher ▸ phase)

/-- The dispatcher stops where the topic is empty. -/
theorem Complete.stop (complete : d.Complete) (empty : d.pipeline.services.topic.queue = []) :
    { d with pipeline := d.pipeline.stopDispatcher, read := d.read ++ [], pending := d.pending ++ [] }.Complete := by
  obtain ⟨gone, publishers, emptied⟩ := d.pipeline.services.topic.sync_stopped
  rw [List.append_nil, List.append_nil, Pipeline.stopDispatcher, Pipeline.syncTopic_eq]
  refine ⟨?_, fun cancelled => ⟨?_, ?_, rfl⟩, complete.kept, fun _ => ?_⟩
  · show d.published = d.read ++ (d.pipeline.services.topic.sync .stopped).queue
    rw [emptied empty, complete.whole, empty]
  · exact publishers.trans (complete.drained cancelled).closed
  · exact emptied empty
  · exact ⟨gone, emptied empty⟩

/-- The dispatcher goes on, and leaves the topic to itself. -/
theorem Complete.turn (complete : d.Complete) {phase : DispatchPhase} (goes : phase ≠ .stopped) :
    { d with
      pipeline := d.pipeline.turnDispatcher phase
      read := d.read ++ []
      pending := d.pending ++ [] }.Complete := by
  obtain ⟨queue, publishers⟩ := d.pipeline.services.topic.sync_running goes
  rw [List.append_nil, List.append_nil, Pipeline.turnDispatcher, Pipeline.syncTopic_eq]
  refine ⟨?_, fun cancelled => ⟨?_, ?_, (complete.drained cancelled).unheld⟩, complete.kept,
    fun stopped => absurd stopped goes⟩
  · show d.published = d.read ++ (d.pipeline.services.topic.sync phase).queue
    rw [queue, complete.whole]
  · exact publishers.trans (complete.drained cancelled).closed
  · exact queue.trans (complete.drained cancelled).empty

/-- The dispatcher reads a payload, so nobody has cancelled yet. -/
theorem Complete.read (complete : d.Complete) {payload : Bytes} {rest : List Bytes}
    (next : d.pipeline.services.topic.queue = payload :: rest) (dispatcher : Dispatcher) (queue : WorkQueue)
    (cancelled : dispatcher.cancelled = d.pipeline.dispatcher.cancelled) (goes : dispatcher.phase ≠ .stopped) :
    { d with
      pipeline := d.pipeline.takePayload dispatcher queue rest
      read := d.read ++ [payload]
      pending := d.pending ++ [] }.Complete := by
  obtain ⟨left, -⟩ := ({ d.pipeline.services.topic with queue := rest } : Topic).sync_running goes
  rw [List.append_nil, Pipeline.takePayload, Pipeline.syncTopic_eq]
  refine ⟨?_, fun late => ?_, complete.kept, fun stopped => absurd stopped goes⟩
  · show d.published = (d.read ++ [payload]) ++
      (({ d.pipeline.services.topic with queue := rest } : Topic).sync dispatcher.phase).queue
    rw [left, complete.whole, next, List.append_assoc]
    rfl
  · have empty := (complete.drained (cancelled.symm.trans late)).empty
    cases empty.symm.trans next

theorem Complete.dispatched {p : Pipeline} {read : List Bytes} {pending : List Signal} (complete : d.Complete)
    (served : d.pipeline.queue.served = true) (step : d.pipeline.Dispatched read pending p) :
    { d with pipeline := p, read := d.read ++ read, pending := d.pending ++ pending }.Complete := by
  cases step with
  | rest => simpa only [List.append_nil] using complete
  | ask => exact complete.turn nofun
  | quit phase cancelled => exact complete.stop (complete.drained cancelled).empty
  | await => exact complete.turn nofun
  | finish phase empty => exact complete.stop empty
  | refuse phase next => exact complete.read next _ _ rfl nofun
  | @offer _ _ signal phase next =>
    refine complete.read next _ _ rfl ?_
    show d.pipeline.queue.offerPhase signal ≠ .stopped
    unfold WorkQueue.offerPhase
    split <;> exact nofun
  | refused phase next decoded unserved => cases served.symm.trans unserved
  | notice phase accepted =>
    rw [List.append_nil, List.append_nil]
    refine ⟨complete.whole, fun cancelled => ?_, complete.kept, by rintro ⟨⟩⟩
    obtain ⟨closed, empty, -⟩ := complete.drained cancelled
    exact ⟨closed, empty, rfl⟩
  | miss => exact complete.turn nofun
  | abandon phase unaccepted unserved => cases served.symm.trans unserved
  | wait => exact complete.turn nofun
  | drop phase cancelled =>
    obtain ⟨-, empty, unheld⟩ := complete.drained cancelled
    rw [unheld]
    exact complete.stop empty

/-- The intake is cancelled, if it is, after its topic is drained. -/
def Late (d : Daemon) : Event → Prop
  | .cancel => d.Drained
  | .shutdown => d.stage = .running → d.Drained
  | _ => True

instance (d : Daemon) : (event : Event) → Decidable (d.Late event)
  | .cancel => inferInstanceAs (Decidable d.Drained)
  | .shutdown => inferInstanceAs (Decidable (d.stage = .running → d.Drained))
  | .publish _ | .addPublisher | .removePublisher | .dispatch | .readFails | .work _ | .archive _
  | .desert | .sweep | .elsewhere _ => isTrue trivial

/-! ## One event -/

theorem Complete.cancel (complete : d.Complete) (drained : d.Drained) : d.cancel.Complete where
  whole := complete.whole
  drained _ := ⟨drained.closed, drained.empty, drained.unheld⟩
  kept := complete.kept
  stopped := complete.stopped

theorem Complete.worked {p : Pipeline} {i : Nat} (complete : d.Complete) (step : d.pipeline.Worked i p) :
    { d with pipeline := p, written := d.written ++ d.pipeline.nextWrite i }.Complete := by
  refine complete.of_same rfl rfl rfl ?_ (Pipeline.topic_of_worked step) ?_
  · cases step <;> rfl
  · intro unheld
    cases step with
    | takes idle took =>
      have none := took.waiting
      rw [unheld] at none
      exact (List.append_eq_nil_iff.mp none.symm).2
    | parks =>
      obtain ⟨parked, woken, eq⟩ := d.pipeline.queue.park_eq i
      rw [eq]
      exact unheld
    | leaves => exact unheld
    | works => exact unheld
    | finishes => exact unheld

/-- **Nothing is lost on the way to the worker queue** as long as the intake is cancelled late. -/
theorem Complete.after (complete : d.Complete) (served : d.pipeline.queue.served = true) (event : Event)
    (late : d.Late event) : (d.after event).Complete := by
  have happened := d.happened event
  generalize d.after event = d' at happened ⊢
  cases happened with
  | nothing => exact complete
  | @published payload opened subscribed =>
    refine ⟨?_, fun cancelled => ?_, complete.kept, fun stopped => ?_⟩
    · show d.published ++ [payload] = d.read ++ (d.pipeline.services.topic.queue ++ [payload])
      rw [complete.whole, List.append_assoc]
    · exact absurd (complete.drained cancelled).closed opened
    · cases (complete.stopped stopped).1.symm.trans subscribed
  | entered opened =>
    refine ⟨complete.whole, fun cancelled => ?_, complete.kept, complete.stopped⟩
    exact absurd (complete.drained cancelled).closed opened
  | left =>
    refine ⟨complete.whole, fun cancelled => ?_, complete.kept, complete.stopped⟩
    obtain ⟨closed, empty, unheld⟩ := complete.drained cancelled
    exact ⟨congrArg (· - 1) closed, empty, unheld⟩
  | dispatched step => exact complete.dispatched served step
  | failed =>
    refine ⟨complete.whole, fun cancelled => ?_, complete.kept, by rintro ⟨⟩⟩
    obtain ⟨closed, empty, unheld⟩ := complete.drained cancelled
    exact ⟨closed, empty, unheld⟩
  | worked step => exact complete.worked step
  | swept topic => exact complete.of_same rfl rfl rfl rfl topic id
  | cancelled => exact complete.cancel late
  | begun stage => exact (complete.cancel (late stage)).of_same rfl rfl rfl rfl rfl id
  | _ => exact complete.of_same rfl rfl rfl rfl rfl id

end Daemon
end Heartbeat
