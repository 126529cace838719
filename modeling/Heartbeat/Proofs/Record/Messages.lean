import Heartbeat.Message
import Heartbeat.Proofs.Record.Envelope

/-! What travels between the tasks arrives as it was sent: the message that the intake puts on the topic, the
intake's reply, and the document that goes to the index. -/
namespace Heartbeat
open Json (Shape Field Layout Value)

theorem uint16_reads (n : UInt16) : Shape.uint16.Reads 0 (.ofInt n.toNat) n := by
  have high := n.toNat_lt
  refine Shape.integer_reads ?_ (by omega) (by omega)
  rw [Json.uint16?, if_pos (by omega), Int.toNat_natCast, UInt16.ofNat_toNat]

theorem Message.reads (m : Message) : Message.layout.shape.Reads 1 m.toJson m := by
  refine Layout.Fills.reads ⟨m.ip, m.time, m.duration⟩ ?_ rfl
  refine .cons rfl rfl (Field.ofShape_reads (text_reads m.ip) _) ?_
  refine .cons rfl rfl (Field.ofShape_reads (int64_reads m.time) _) ?_
  refine .cons rfl rfl (Field.ofShape_reads (int64_reads m.duration) _) ?_
  exact .nil

/-- **A message arrives as it was sent.** -/
theorem Message.parse_render (m : Message) : Message.parse (Text.encode m.render) = .ok m :=
  m.reads.parse (by decide)

theorem Reply.reads (r : Reply) : Reply.layout.shape.Reads 1 r.toJson r := by
  refine Layout.Fills.reads ⟨r.code, r.message⟩ ?_ rfl
  refine .cons rfl rfl (Field.ofShape_reads (uint16_reads r.code) _) ?_
  refine .cons rfl rfl (Field.ofShape_reads (text_reads r.message) _) ?_
  exact .nil

/-- **A reply arrives as it was sent.** -/
theorem Reply.parse_render (r : Reply) : Reply.parse (Text.encode r.render) = .ok r :=
  r.reads.parse (by decide)

theorem Document.reads (d : Document) : Document.shape.Reads 2 d.toJson d := by
  refine Layout.Fills.reads ⟨d.server, d.observedAt, d.duration⟩ ?_ rfl
  refine .cons rfl rfl (Field.ofShape_reads d.server.reads _) ?_
  refine .cons rfl rfl (Field.ofShape_reads ((int64_reads d.observedAt).deeper (by decide)) _) ?_
  refine .cons rfl rfl (Field.ofShape_reads ((int64_reads d.duration).deeper (by decide)) _) ?_
  exact .nil

/-- **A document arrives as it was sent.** -/
theorem Document.parse_render (d : Document) : Document.shape.parse (Text.encode d.render) = .ok d :=
  d.reads.parse (by decide)

end Heartbeat
