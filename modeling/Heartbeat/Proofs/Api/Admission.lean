import Heartbeat.Api
import Heartbeat.Proofs.Pipeline.Handover
import Heartbeat.Proofs.Record.Messages
import Heartbeat.Proofs.Text.Trim

/-! The intake and the dispatcher agree on what a heartbeat is. A body is checked where it comes in, and the
payload that is made of it is checked again where it is read; whatever passes the first check passes the
second, as the signal of the same host, and what does not pass leaves the topic alone. -/
namespace Heartbeat
open Text (trim)

/-! ## The two checks -/

/-- The payload of a request observed at a time is read as the signal of its host. -/
theorem Signal.decode_observed {request : Request} (named : trim request.ip ≠ "") (now : Int64) :
    Signal.decode (Text.encode (request.observedAt now).render) =
      .ok ⟨trim request.ip, now, request.duration⟩ := by
  have arrives := Message.parse_render (request.observedAt now)
  rw [Signal.decode, arrives]
  exact if_neg named

/-- A payload that is a signal is not counted as malformed. -/
theorem Dispatcher.malformed_of_signal {payload : Bytes} {signal : Signal}
    (decoded : Signal.decode payload = .ok signal) (d : Dispatcher) (q : WorkQueue) :
    (d.receive q (.payload payload)).1.malformed = d.malformed := by
  simp only [Dispatcher.receive, decoded]
  split <;> rfl

namespace Api

variable {now : Int64} {body payload : Bytes} {topic : Topic}

/-- What the intake makes of a body. -/
inductive Outcome (now : Int64) (body : Bytes) (topic : Topic) : Reply × Topic → Prop where
  | accepted {request : Request} (read : Request.parse body = .ok request)
      (named : trim request.ip ≠ "") (subscribed : topic.subscribed = true)
      (room : topic.awaited = true ∨ topic.queue.length < topic.capacity) :
      Outcome now body topic (reply 200 "OK",
        { topic with
          queue := topic.queue ++ [Text.encode (request.observedAt now).render], awaited := false })
  | unreadable {error : Json.ReadError} (unread : Request.parse body = .error error) :
      Outcome now body topic (reply 400 ("invalid heartbeat: " ++ error.message), topic)
  | nameless {request : Request} (read : Request.parse body = .ok request)
      (unnamed : trim request.ip = "") :
      Outcome now body topic (reply 400 "invalid heartbeat: empty ip", topic)
  | full {request : Request} (read : Request.parse body = .ok request) (named : trim request.ip ≠ "")
      (subscribed : topic.subscribed = true) (unawaited : topic.awaited = false)
      (crowded : topic.capacity ≤ topic.queue.length) :
      Outcome now body topic (reply 503 (PublishFault.full topic.name).message, topic)
  | unheard {request : Request} (read : Request.parse body = .ok request)
      (named : trim request.ip ≠ "") (unsubscribed : topic.subscribed = false) :
      Outcome now body topic (reply 500 (PublishFault.unread topic.name).message, topic)

/-- **Every body** comes to one of these. -/
theorem outcome (now : Int64) (body : Bytes) (topic : Topic) :
    Outcome now body topic (intake now body topic) := by
  unfold intake
  cases read : Request.parse body with
  | error error => exact .unreadable read
  | ok request =>
    by_cases named : trim request.ip = ""
    · simp only [named, if_true]
      exact .nameless read named
    · simp only [named, if_false]
      unfold Topic.publish
      by_cases subscribed : topic.subscribed = true
      · rw [if_neg (not_not.mpr subscribed)]
        by_cases room : topic.awaited = true ∨ topic.queue.length < topic.capacity
        · rw [if_pos room]
          exact .accepted read named subscribed room
        · rw [if_neg room]
          obtain ⟨unawaited, crowded⟩ := not_or.mp room
          exact .full read named subscribed (by simpa using unawaited) (Nat.not_lt.mp crowded)
      · rw [if_pos subscribed]
        exact .unheard read named (by simpa using subscribed)

/-- Somebody has sent a body that was answered 200, and this is the payload that it was made into. -/
def Admitted (payload : Bytes) : Prop :=
  ∃ now body topic, (intake now body topic).1.code = 200 ∧
    (intake now body topic).2.queue = topic.queue ++ [payload]

theorem Admitted.decodes (admitted : Admitted payload) :
    ∃ signal, Signal.decode payload = .ok signal := by
  obtain ⟨now, body, topic, code, queue⟩ := admitted
  have result := outcome now body topic
  generalize intake now body topic = after at result code queue
  cases result with
  | accepted read named =>
    obtain rfl : Text.encode (Message.render _) = payload := by simpa using queue
    exact ⟨_, Signal.decode_observed named now⟩
  | unreadable => exact absurd (show (400 : UInt16) = 200 from code) (by decide)
  | nameless => exact absurd (show (400 : UInt16) = 200 from code) (by decide)
  | full => exact absurd (show (503 : UInt16) = 200 from code) (by decide)
  | unheard => exact absurd (show (500 : UInt16) = 200 from code) (by decide)

end Api

/-! ## What a dispatcher counts, over whole runs -/

namespace Daemon

variable {d : Daemon}

theorem counts_run (settings : PipelineSettings) (services : Services) (events : List Event) :
    ((start settings services).run events).Counts ∧ ((start settings services).run events).History := by
  have held : (start settings services).Counts ∧ (start settings services).History :=
    ⟨rfl, history_start settings services⟩
  generalize start settings services = d at held
  induction events generalizing d with
  | nil => exact held
  | cons event events ih => exact ih (d.after event) ⟨held.1.after event, held.2.after event⟩

/-- A topic takes nothing but what is published. -/
theorem published_of_run {payload : Bytes} {events : List Event}
    (member : payload ∈ (d.run events).published) :
    payload ∈ d.published ∨ .publish payload ∈ events := by
  induction events generalizing d with
  | nil => exact .inl member
  | cons event events ih =>
    rcases ih (d := d.after event) member with before | later
    · have happened := d.happened event
      generalize d.after event = d' at happened before
      cases happened with
      | published =>
        rcases List.mem_append.mp before with old | new
        · exact .inl old
        · cases List.mem_singleton.mp new
          exact .inr (.head _)
      | cancelled => exact .inl before
      | begun => exact .inl before
      | _ => exact .inl before
    · exact .inr (.tail _ later)

/-- A dispatcher that reads what the intake has admitted counts nothing as malformed. -/
theorem malformed_of_admitted {settings : PipelineSettings} {services : Services} {events : List Event}
    (waiting : ∀ payload ∈ services.topic.queue, Api.Admitted payload)
    (admitted : ∀ payload, .publish payload ∈ events → Api.Admitted payload) :
    ((start settings services).run events).pipeline.dispatcher.malformed = 0 := by
  obtain ⟨counts, history⟩ := counts_run settings services events
  refine counts.trans (List.countP_eq_zero.mpr fun payload read => ?_)
  have taken : payload ∈ ((start settings services).run events).published :=
    history.taken.subset (List.mem_append_left _ read)
  obtain ⟨signal, decoded⟩ : ∃ signal, Signal.decode payload = .ok signal := by
    rcases published_of_run taken with before | event
    · exact (waiting payload before).decodes
    · exact (admitted payload event).decodes
  simp [isMalformed, decoded, Except.isOk, Except.toBool]

end Daemon
namespace Api

/-- The answer over HTTP to a body that is not too long: the status is the code that the body of the answer
tells. -/
theorem takeHeartbeat_reply {body : Bytes} (short : body.length ≤ bodyLimit) (s : Services) :
    ∃ reply, Reply.parse (Text.encode (takeHeartbeat body s).1.body) = .ok reply ∧
      (takeHeartbeat body s).1.code = reply.code.toNat ∧
      (reply, (takeHeartbeat body s).2.topic) =
        intake (Int64.ofInt (s.clock s.readings).unixMillis) body s.topic := by
  unfold takeHeartbeat
  rw [if_neg (Nat.not_lt.mpr short)]
  exact ⟨_, Reply.parse_render _, rfl, rfl⟩

/-- **The intake agrees with the dispatcher.** A body is answered 200 exactly if one payload more is in the
topic, which is then read as the signal of the host that the body names, at the time of the answer, and is
never counted as malformed. Any other answer says why, and leaves the topic as it was. -/
theorem intake_agrees_with_dispatcher (now : Int64) (body : Bytes) (topic : Topic) :
    (((intake now body topic).1.code = 200 ∧ ∃ request payload,
        Request.parse body = .ok request ∧
        (intake now body topic).2 =
          { topic with queue := topic.queue ++ [payload], awaited := false } ∧
        Text.Trimmed (trim request.ip) ∧
        Signal.decode payload = .ok ⟨trim request.ip, now, request.duration⟩ ∧
        ∀ (d : Dispatcher) (q : WorkQueue),
          (d.receive q (.payload payload)).1.malformed = d.malformed) ∨
      ((intake now body topic).2 = topic ∧
        (((intake now body topic).1.code = 400 ∧
            ∀ request, Request.parse body = .ok request → trim request.ip = "") ∨
          (∃ request, Request.parse body = .ok request ∧ trim request.ip ≠ "" ∧
            (((intake now body topic).1.code = 503 ∧ topic.subscribed = true ∧
                topic.awaited = false ∧ topic.capacity ≤ topic.queue.length) ∨
              ((intake now body topic).1.code = 500 ∧ topic.subscribed = false)))))) ∧
    (∀ s : Services, body.length ≤ bodyLimit →
      ∃ reply, Reply.parse (Text.encode (takeHeartbeat body s).1.body) = .ok reply ∧
        (takeHeartbeat body s).1.code = reply.code.toNat ∧
        (reply, (takeHeartbeat body s).2.topic) =
          intake (Int64.ofInt (s.clock s.readings).unixMillis) body s.topic) ∧
    ∀ (settings : PipelineSettings) (services : Services) (events : List Event),
      (∀ payload ∈ services.topic.queue, Admitted payload) →
      (∀ payload, .publish payload ∈ events → Admitted payload) →
      ((Daemon.start settings services).run events).pipeline.dispatcher.malformed = 0 := by
  refine ⟨?_, fun s short => takeHeartbeat_reply short s,
    fun settings services events => Daemon.malformed_of_admitted⟩
  have result := outcome now body topic
  generalize intake now body topic = after at result
  cases result with
  | accepted read named =>
    have decoded := Signal.decode_observed named now
    exact .inl ⟨rfl, _, _, read, rfl, Text.trimmed_trim named, decoded,
      Dispatcher.malformed_of_signal decoded⟩
  | unreadable unread => exact .inr ⟨rfl, .inl ⟨rfl, fun request read => by simp [unread] at read⟩⟩
  | nameless read unnamed =>
    refine .inr ⟨rfl, .inl ⟨rfl, fun other same => ?_⟩⟩
    cases read.symm.trans same
    exact unnamed
  | full read named subscribed unawaited crowded =>
    exact .inr ⟨rfl, .inr ⟨_, read, named, .inl ⟨rfl, subscribed, unawaited, crowded⟩⟩⟩
  | unheard read named unsubscribed =>
    exact .inr ⟨rfl, .inr ⟨_, read, named, .inr ⟨rfl, unsubscribed⟩⟩⟩

/-- A body whose host is written with blanks around it. -/
def padded : Bytes := Text.encode "\x7b\"ip\":\" host \",\"duration\":1,\"time\":7\x7d"

/-- The payload that it is made into at the start of 1970. -/
def paddedPayload : Bytes := Text.encode (Message.render ⟨" host ", 0, 1⟩)

theorem padded_heartbeat_is_read : Admitted paddedPayload ∧
    ((Daemon.start ⟨1, 1, 1, ⟨1, 1, 1⟩, 1⟩ .plain).run
      [.dispatch, .publish paddedPayload, .dispatch]).pipeline.dispatcher.malformed = 0 := by
  have admitted : Admitted paddedPayload :=
    ⟨0, padded, ⟨"signals", 1, [], 1, true, false⟩, by decide +kernel, by decide +kernel⟩
  obtain ⟨-, -, counted⟩ := intake_agrees_with_dispatcher 0 padded ⟨"signals", 1, [], 1, true, false⟩
  refine ⟨admitted, counted _ _ _ (by rintro _ ⟨⟩) fun payload member => ?_⟩
  obtain rfl : payload = paddedPayload := by simpa using member
  exact admitted

end Api
end Heartbeat
