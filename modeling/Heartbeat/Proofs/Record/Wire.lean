import Heartbeat.Signal
import Heartbeat.Proofs.Json.Whole
import Heartbeat.Proofs.Record.Messages
import Heartbeat.Proofs.Text.Trim

/-! What goes over the wire comes back. A request is read as it was sent, whether it has a time or not, and
its text has a member for the time only if it does. A signal that was decoded is decoded again from the
message that it makes, because its address is trimmed. -/
namespace Heartbeat
open Json (Shape Field Layout Value)
open Text (encode trim Trimmed)

/-- A value that is not null is read as itself where it may be null. -/
theorem optional_int64_reads (n : Int64) : (Shape.optional .int64).Reads 0 (.ofInt64 n) (some n) := by
  intro depth rest left ends
  have read := int64_reads n depth rest left ends
  obtain ⟨b, more, start, numeric⟩ := Json.encode_toString_cons n.toInt
  have front : Json.skipBlanks (encode (Value.ofInt64 n).render ++ rest) =
      encode (Value.ofInt64 n).render ++ rest := Json.skipBlanks_toString n.toInt rest
  simp only [Shape.optional, front]
  split
  · rename_i null
    -- the text of a number starts with a sign or a digit, and so not like the word for null
    have first : b = 0x6E := by
      have text : encode (Value.ofInt64 n).render = b :: more := start
      rw [text] at null
      exact (List.cons.inj null).1
    subst first
    simp [Json.isDigit] at numeric
  · rw [read]
    rfl

theorem any_int64_reads (n : Int64) : Shape.any.Reads 0 (.ofInt64 n) (.ofInt64 n) := by
  have low := n.le_toInt
  have high := n.toInt_lt
  exact Json.any_int_reads (by simpa using low) (by omega)

namespace Request

theorem reads (r : Request) : layout.shape.Reads 1 r.toJson r := by
  obtain ⟨ip, duration, time⟩ := r
  cases time with
  | none =>
    refine Layout.Fills.reads ⟨ip, duration, none⟩ ?_ rfl
    refine .cons rfl rfl (Field.ofShape_reads (text_reads ip) _) ?_
    refine .cons rfl rfl (Field.ofShape_reads (int64_reads duration) _) ?_
    exact .nil
  | some time =>
    refine Layout.Fills.reads ⟨ip, duration, some (some time)⟩ ?_ rfl
    refine .cons rfl rfl (Field.ofShape_reads (text_reads ip) _) ?_
    refine .cons rfl rfl (Field.ofShape_reads (int64_reads duration) _) ?_
    refine .cons rfl rfl (Field.ofShape_reads (optional_int64_reads time) _).defaulted ?_
    exact .nil

/-- **A request arrives as it was sent.** -/
theorem parse_render (r : Request) : parse (encode r.render) = .ok r :=
  r.reads.parse (by decide)

/-- The text of a request, read as a value of any kind, has the time of the request, or none if it has
none. -/
theorem time_render (r : Request) :
    ∃ v, Value.parse (encode r.render) = .ok v ∧ v.member? "time" = r.time.map .ofInt64 := by
  obtain ⟨ip, duration, time⟩ := r
  cases time with
  | none =>
    have reads : Shape.any.Reads 1 (.object [("ip", .text ip), ("duration", .ofInt64 duration)]) _ :=
      Json.any_object_gathers (by simp [Json.any_text_reads, any_int64_reads])
    refine ⟨_, reads.parse (by decide), ?_⟩
    simp [Value.member?, Json.insertMembers, Json.lookup_insertMember]
  | some time =>
    have reads : Shape.any.Reads 1
        (.object [("ip", .text ip), ("duration", .ofInt64 duration), ("time", .ofInt64 time)]) _ :=
      Json.any_object_gathers (by simp [Json.any_text_reads, any_int64_reads])
    refine ⟨_, reads.parse (by decide), ?_⟩
    simp [Value.member?, Json.insertMembers, Json.lookup_insertMember]

end Request

namespace Signal

/-- What was decoded is the trimmed address of a message, and not empty. -/
theorem trimmed_of_decode {payload : Bytes} {signal : Signal} (decoded : decode payload = .ok signal) :
    Trimmed signal.address := by
  unfold decode ofMessage at decoded
  cases parsed : Message.parse payload with
  | error => simp [parsed, Except.mapError, bind, Except.bind] at decoded
  | ok m =>
    simp only [parsed, Except.mapError, bind, Except.bind] at decoded
    split at decoded
    · cases decoded
    · rename_i named
      cases decoded
      exact Text.trimmed_trim named

/-- A signal with a trimmed address is decoded from the message that it makes. -/
theorem decode_toMessage {signal : Signal} (trimmed : Trimmed signal.address) :
    decode (encode signal.toMessage.render) = .ok signal := by
  have same : trim signal.toMessage.ip = signal.address := trimmed.trim_eq
  rw [decode, Message.parse_render]
  show ofMessage signal.toMessage = _
  rw [ofMessage, same, if_neg trimmed.1]
  rfl

/-- **What goes over the wire comes back**: messages, requests and replies are read as they were written, a
request's text has a time exactly if the request has one, and a signal that was decoded is decoded again from
the message that it makes, with an address that is trimmed and not empty. -/
theorem wire_round_trips :
    (∀ m : Message, Message.parse (encode m.render) = .ok m) ∧
    (∀ r : Request, Request.parse (encode r.render) = .ok r ∧
      ∃ v, Value.parse (encode r.render) = .ok v ∧ v.member? "time" = r.time.map .ofInt64) ∧
    (∀ r : Reply, Reply.parse (encode r.render) = .ok r) ∧
    ∀ payload signal, decode payload = .ok signal →
      Trimmed signal.address ∧ decode (encode signal.toMessage.render) = .ok signal := by
  refine ⟨Message.parse_render, fun r => ⟨r.parse_render, r.time_render⟩, Reply.parse_render,
    fun payload signal decoded => ?_⟩
  have trimmed := trimmed_of_decode decoded
  exact ⟨trimmed, decode_toMessage trimmed⟩

/-- A payload with an ideographic space in front of its address. -/
theorem padded_signal_comes_back :
    decode (encode (Message.render ⟨"　é", Int64.minValue, Int64.maxValue⟩)) =
      .ok ⟨"é", Int64.minValue, Int64.maxValue⟩ ∧
    Trimmed "é" ∧
    decode (encode (Message.render ⟨"é", Int64.minValue, Int64.maxValue⟩)) =
      .ok ⟨"é", Int64.minValue, Int64.maxValue⟩ := by
  have decoded : decode (encode (Message.render ⟨"　é", Int64.minValue, Int64.maxValue⟩)) =
      .ok ⟨"é", Int64.minValue, Int64.maxValue⟩ := by
    rw [decode, Message.parse_render]
    decide +kernel
  exact ⟨decoded, wire_round_trips.2.2.2 _ _ decoded⟩

end Signal
end Heartbeat
