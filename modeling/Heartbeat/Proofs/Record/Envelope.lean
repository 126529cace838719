import Heartbeat.Record
import Heartbeat.Proofs.Json.Layout
import Heartbeat.Proofs.Time.Lenient

/-! The cache gives back the record it was given. Each field is read from what it was written as, the fields
fill the record's draft, and the record fills the draft of its envelope. -/
namespace Heartbeat
open Json (Shape Field Layout Value)
open Time (Instant)

theorem int64_reads (n : Int64) : Shape.int64.Reads 0 (.ofInt64 n) n := by
  have low := n.le_toInt
  have high := n.toInt_lt
  refine Shape.integer_reads ?_ (by simpa using low) (by omega)
  rw [Json.int64?, if_pos (by omega), Int64.ofInt_toInt]

theorem uint32_reads (n : UInt32) : Shape.uint32.Reads 0 (.ofInt n.toNat) n := by
  have high := n.toNat_lt
  refine Shape.integer_reads ?_ (by omega) (by omega)
  rw [Json.uint32?, if_pos (by omega), Int.toNat_natCast, UInt32.ofNat_toNat]

theorem text_reads (text : String) : Shape.text.Reads 0 (.text text) text :=
  Shape.textual_reads rfl

theorem Status.reads (status : Status) : Status.shape.Reads 0 status.toJson status := by
  cases status <;> exact Shape.variant_reads rfl

theorem instant_reads (t : Instant) : instantShape.Reads 0 (.text t.render) t :=
  Shape.textual_reads (by rw [Time.Instant.read_render]; rfl)

/-- **A record survives being written**, wherever it stands in a text. -/
theorem Record.reads (r : Record) : Record.shape.Reads 1 r.toJson r := by
  refine Layout.Fills.reads ⟨r.id, r.name, r.address, r.status, r.createdAt, r.lastUpdated⟩ ?_ rfl
  refine .cons rfl rfl (Field.ofShape_reads (int64_reads r.id) _) ?_
  refine .cons rfl rfl (Field.ofShape_reads (text_reads r.name) _) ?_
  refine .cons rfl rfl (Field.ofShape_reads (text_reads r.address) _) ?_
  refine .cons rfl rfl (Field.ofShape_reads r.status.reads _) ?_
  refine .cons rfl rfl (Field.ofShape_reads (instant_reads r.createdAt) _) ?_
  refine .cons rfl rfl (Field.ofShape_reads (instant_reads r.lastUpdated) _) ?_
  exact .nil

theorem Envelope.reads (e : Envelope) : Envelope.layout.shape.Reads 2 e.toJson e := by
  refine Layout.Fills.reads ⟨e.version, e.record⟩ ?_ rfl
  refine .cons rfl rfl (Field.ofShape_reads ((uint32_reads e.version).deeper (by decide)) _) ?_
  refine .cons rfl rfl (Field.ofShape_reads e.record.reads _) ?_
  exact .nil

/-- **The cache loses nothing**: the text that it keeps of a record holds this record. -/
theorem Record.decodeCached?_encodeCached (r : Record) : decodeCached? r.encodeCached = some r := by
  have read := (Envelope.reads ⟨Envelope.currentVersion, r⟩).parse (by decide)
  simp only [decodeCached?, encodeCached, read, if_true]

/-- Records of different addresses have different keys. -/
theorem cacheKey_inj {address other : String} : cacheKey address = cacheKey other ↔ address = other := by
  unfold cacheKey
  constructor
  · intro eq
    simpa [← String.toList_inj] using eq
  · rintro rfl
    rfl

end Heartbeat
