import Heartbeat.Proofs.Pipeline.Steps

/-! Payloads that nobody reads. A run is played again beside itself without the payloads that its dispatcher
never got to: the topic is cut off behind the last payload that is read, and a publication behind that is
left out. Nothing but the dispatcher's read looks at the topic, so the two daemons differ in their topics
alone, and at the end in nothing that a payload could have left behind. -/
namespace Heartbeat

namespace Topic

variable {k : Nat} {t t' : Topic}

/-- A topic whose queue ends after so many payloads; in front of it a reader may wait where none does in
front of the whole one. -/
structure Cut (k : Nat) (t t' : Topic) : Prop where
  name : t'.name = t.name
  capacity : t'.capacity = t.capacity
  queue : t'.queue = t.queue.take k
  publishers : t'.publishers = t.publishers
  subscribed : t'.subscribed = t.subscribed
  awaited : t.awaited = true → t'.awaited = true

/-- The topic as a dispatcher in a phase leaves it. -/
def sync (t : Topic) : DispatchPhase → Topic
  | .stopped => if t.subscribed then t.unsubscribe else t
  | .reading => { t with awaited := t.queue.isEmpty }
  | .asking => t
  | .ready | .handing | .checking => { t with awaited := false }

theorem Cut.sync (cut : Cut k t t') (phase : DispatchPhase) : Cut k (t.sync phase) (t'.sync phase) := by
  have awaits : t.queue.isEmpty = true → t'.queue.isEmpty = true := by
    intro empty
    rw [cut.queue, List.isEmpty_iff.mp empty, List.take_nil]
    rfl
  cases phase with
  | stopped =>
    simp only [Topic.sync, cut.subscribed]
    split
    · exact ⟨cut.name, cut.capacity, (List.take_nil).symm, cut.publishers, rfl, by rintro ⟨⟩⟩
    · exact cut
  | reading => exact ⟨cut.name, cut.capacity, cut.queue, cut.publishers, cut.subscribed, awaits⟩
  | asking => exact cut
  | ready => exact ⟨cut.name, cut.capacity, cut.queue, cut.publishers, cut.subscribed, by rintro ⟨⟩⟩
  | handing => exact ⟨cut.name, cut.capacity, cut.queue, cut.publishers, cut.subscribed, by rintro ⟨⟩⟩
  | checking => exact ⟨cut.name, cut.capacity, cut.queue, cut.publishers, cut.subscribed, by rintro ⟨⟩⟩

/-- A topic that is brought in line with the dispatcher keeps its queue, unless it is given up. -/
theorem sync_queue (t : Topic) (phase : DispatchPhase) :
    (t.sync phase).queue <+: t.queue ∧
      ((t.sync phase).subscribed = true → t.subscribed = true ∧ t.queue = (t.sync phase).queue) := by
  cases phase with
  | stopped =>
    simp only [sync]
    split
    · exact ⟨List.nil_prefix, by rintro ⟨⟩⟩
    · rename_i gone
      exact ⟨List.prefix_refl _, fun subscribed => absurd subscribed gone⟩
  | _ => exact ⟨List.prefix_refl _, fun subscribed => ⟨subscribed, rfl⟩⟩

theorem sync_rest {payload : Bytes} {rest : List Bytes} (next : t.queue = payload :: rest)
    (phase : DispatchPhase) :
    [payload] ++ ({ t with queue := rest }.sync phase).queue <+: t.queue ∧
      (({ t with queue := rest }.sync phase).subscribed = true → t.subscribed = true ∧
        t.queue = [payload] ++ ({ t with queue := rest }.sync phase).queue) := by
  obtain ⟨shorter, same⟩ := sync_queue { t with queue := rest } phase
  rw [next]
  refine ⟨List.cons_prefix_cons.mpr ⟨rfl, shorter⟩, fun subscribed => ?_⟩
  obtain ⟨before, eq⟩ := same subscribed
  exact ⟨before, congrArg (payload :: ·) eq⟩

/-- A topic that takes a payload takes it also when it is cut off behind it. -/
theorem Cut.publish (cut : Cut k t t') (subscribed : t.subscribed = true)
    (room : t.awaited = true ∨ t.queue.length < t.capacity) (below : t.queue.length < k)
    (payload : Bytes) :
    ∃ t'', t'.publish payload = .ok t'' ∧
      Cut k { t with queue := t.queue ++ [payload], awaited := false } t'' := by
  have whole : t'.queue = t.queue := by rw [cut.queue, List.take_of_length_le (Nat.le_of_lt below)]
  rcases t'.publish_cases payload with ⟨-, -, eq⟩ | ⟨fault, eq⟩
  · refine ⟨_, eq, cut.name, cut.capacity, ?_, cut.publishers, cut.subscribed, by rintro ⟨⟩⟩
    rw [whole, List.take_of_length_le]
    simp only [List.length_append, List.length_singleton]
    omega
  · have taken : t'.awaited = true ∨ t'.queue.length < t'.capacity := by
      rw [whole, cut.capacity]
      exact room.imp_left cut.awaited
    simp [Topic.publish, cut.subscribed, subscribed, taken] at eq

theorem Cut.addPublisher (cut : Cut k t t') : Cut k t.addPublisher t'.addPublisher := by
  simp only [Topic.addPublisher, cut.publishers]
  split
  · exact cut
  · exact ⟨cut.name, cut.capacity, cut.queue, rfl, cut.subscribed, cut.awaited⟩

theorem Cut.removePublisher (cut : Cut k t t') : Cut k t.removePublisher t'.removePublisher :=
  ⟨cut.name, cut.capacity, cut.queue, congrArg (· - 1) cut.publishers, cut.subscribed, cut.awaited⟩

/-- A payload behind the cut makes no difference. -/
theorem Cut.skip (cut : Cut k t t') (beyond : k ≤ t.queue.length) (payload : Bytes) :
    Cut k { t with queue := t.queue ++ [payload], awaited := false } t' :=
  ⟨cut.name, cut.capacity, by rw [cut.queue, List.take_append_of_le_length beyond], cut.publishers,
    cut.subscribed, by rintro ⟨⟩⟩

end Topic

namespace Pipeline

variable {p : Pipeline} {topic other : Topic}

theorem syncTopic_eq : p.syncTopic = p.setTopic (p.services.topic.sync p.dispatcher.phase) := by
  unfold syncTopic Topic.sync
  cases p.dispatcher.phase <;> rfl

theorem topic_of_worked {i : Nat} {next : Pipeline} (step : p.Worked i next) :
    next.services.topic = p.services.topic := by
  cases step with
  | takes => rfl
  | parks => rfl
  | leaves => rfl
  | works => exact ProcessPhase.step_topic ..
  | finishes => exact ProcessPhase.step_topic ..

/-- What is left in the topic after a look of the dispatcher. -/
theorem topic_of_dispatched {read : List Bytes} {pending : List Signal} {next : Pipeline}
    (step : p.Dispatched read pending next) :
    read ++ next.services.topic.queue <+: p.services.topic.queue ∧
      (next.services.topic.subscribed = true → p.services.topic.subscribed = true ∧
        p.services.topic.queue = read ++ next.services.topic.queue) := by
  -- a look that reads nothing leaves what it finds, unless it is the last one
  have turned {p' : Pipeline} (topic : p'.services.topic = p.services.topic) :
      [] ++ p'.syncTopic.services.topic.queue <+: p.services.topic.queue ∧
        (p'.syncTopic.services.topic.subscribed = true → p.services.topic.subscribed = true ∧
          p.services.topic.queue = [] ++ p'.syncTopic.services.topic.queue) := by
    rw [syncTopic_eq, topic]
    exact Topic.sync_queue ..
  have taken {dispatcher : Dispatcher} {queue : WorkQueue} {payload : Bytes} {rest : List Bytes}
      (next : p.services.topic.queue = payload :: rest) :
      [payload] ++ (p.takePayload dispatcher queue rest).services.topic.queue <+: p.services.topic.queue ∧
        ((p.takePayload dispatcher queue rest).services.topic.subscribed = true →
          p.services.topic.subscribed = true ∧ p.services.topic.queue =
            [payload] ++ (p.takePayload dispatcher queue rest).services.topic.queue) := by
    rw [takePayload, syncTopic_eq]
    exact Topic.sync_rest next _
  cases step with
  | rest => exact ⟨List.prefix_refl _, fun subscribed => ⟨subscribed, rfl⟩⟩
  | ask => exact turned rfl
  | quit => exact turned rfl
  | await => exact turned rfl
  | finish => exact turned rfl
  | refuse phase next => exact taken next
  | offer phase next => exact taken next
  | refused phase next => exact taken next
  | notice => exact turned rfl
  | miss => exact turned rfl
  | abandon => exact turned rfl
  | wait => exact turned rfl
  | drop => exact turned rfl

end Pipeline

namespace Daemon

variable {d : Daemon} {n : Nat} {topic : Topic}

/-- The payloads in the topic are what is left of those it has taken; a topic that is given up is empty. -/
structure History (d : Daemon) : Prop where
  taken : d.read ++ d.pipeline.services.topic.queue <+: d.published
  all : d.pipeline.services.topic.subscribed = true →
    d.published = d.read ++ d.pipeline.services.topic.queue

/-- The daemon beside which so many payloads are published and no more. -/
def cut (d : Daemon) (n : Nat) (topic : Topic) : Daemon :=
  { d with pipeline := d.pipeline.setTopic topic, published := d.published.take n }

theorem History.of_same {d' : Daemon} (history : d.History) (read : d'.read = d.read)
    (published : d'.published = d.published)
    (topic : d'.pipeline.services.topic = d.pipeline.services.topic) : d'.History :=
  ⟨by rw [read, published, topic]; exact history.taken,
    by rw [read, published, topic]; exact history.all⟩

/-- **The history is kept** by every event. -/
theorem History.after (history : d.History) (event : Event) : (d.after event).History := by
  have happened := d.happened event
  generalize d.after event = d' at happened ⊢
  cases happened with
  | nothing => exact history
  | @published payload opened subscribed =>
    have same : d.published ++ [payload] =
        d.read ++ (d.pipeline.services.topic.queue ++ [payload]) := by
      rw [history.all subscribed, List.append_assoc]
    exact ⟨same ▸ List.prefix_refl _, fun _ => same⟩
  | entered => exact ⟨history.taken, history.all⟩
  | left => exact ⟨history.taken, history.all⟩
  | dispatched step =>
    obtain ⟨shorter, same⟩ := Pipeline.topic_of_dispatched step
    refine ⟨?_, fun subscribed => ?_⟩
    · simp only [List.append_assoc]
      exact ((List.prefix_append_right_inj _).mpr shorter).trans history.taken
    · obtain ⟨before, eq⟩ := same subscribed
      simp only [history.all before, eq, List.append_assoc]
  | failed =>
    rw [Pipeline.syncTopic_eq]
    exact ⟨history.taken, history.all⟩
  | worked step => exact history.of_same rfl rfl (Pipeline.topic_of_worked step)
  | swept topic => exact history.of_same rfl rfl topic
  | _ => exact history.of_same rfl rfl rfl

theorem history_start (settings : PipelineSettings) (services : Services) :
    (start settings services).History :=
  ⟨List.prefix_refl _, fun _ => rfl⟩

end Daemon
end Heartbeat
