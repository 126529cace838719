import Heartbeat.Proofs.Json.Numeral
import Heartbeat.Proofs.Record.Envelope

/-! The version of a cached record. The text that the cache keeps of a record is read as far as its version,
whatever number stands there; if that number is an integer of the right width, the record behind it is read
as the one that was written. So the version alone decides whether the cache gives a record back. -/
namespace Heartbeat
open Json (Numeral Layout Value Ends behind)
open Text (encode)
open Time (Instant)

namespace Envelope

/-- The text of a record in the cache, with a version that is spelled like this. -/
def spelled (version : String) (r : Record) : String :=
  "\x7b" ++ ("\"v\":" ++ version ++ "," ++ ("\"record\":" ++ r.render)) ++ "\x7d"

theorem spelled_toString (e : Envelope) :
    spelled (toString (e.version.toNat : Int)) e.record = e.toJson.render := by
  have v : "\"v\":" = Json.renderText "v" ++ ":" := by decide +kernel
  have record : "\"record\":" = Json.renderText "record" ++ ":" := by decide +kernel
  rw [spelled, v, record]
  rfl

/-- The cache spells the current version with the digit one. -/
theorem encodeCached_eq (r : Record) : r.encodeCached = spelled Numeral.one.text r := by
  have one : toString (currentVersion.toNat : Int) = Numeral.one.text := by decide +kernel
  rw [← one]
  exact (spelled_toString ⟨currentVersion, r⟩).symm

/-- The version is the first thing in the text, and the record stands behind it. -/
theorem encode_spelled (version : String) (r : Record) :
    encode (spelled version r) =
      0x7B :: 0x22 :: (encode (String.join ("v".toList.map Json.escapeChar)) ++
        0x22 :: 0x3A :: (encode version ++ behind [("record", r.toJson)] [])) := by
  have record : "\"record\":" = Json.renderText "record" ++ ":" := by decide +kernel
  have last : behind [("record", r.toJson)] [] =
      0x2C :: (encode ("\"record\":" ++ r.render) ++ [0x7D]) := by
    rw [record]
    simp only [behind, Json.renderMembers, List.flatMap_cons, List.flatMap_nil, List.append_nil,
      List.cons_append]
    rfl
  rw [last]
  simp only [spelled, Text.encode_append, List.append_assoc]
  rfl

/-- The record behind a version is read as the one that was written. -/
theorem record_fills (v : UInt32) (r : Record) :
    layout.Fills 1 ⟨some v, none⟩ [("record", r.toJson)] ⟨some v, some r⟩ :=
  .cons rfl rfl (Json.Field.ofShape_reads r.reads _) .nil

/-- The version is read first, and then the members that stand behind it. -/
theorem members_version (body : Bytes) : ∃ fuel, 1 < fuel ∧
    Json.members (layout.member 127) layout.empty
        (0x22 :: (encode (String.join ("v".toList.map Json.escapeChar)) ++ 0x22 :: 0x3A :: body)) =
      Json.Shape.uint32.read 127 body >>=
        fun (v, rest) => Json.membersFrom (layout.member 127) fuel false ⟨some v, none⟩ rest := by
  refine ⟨(0x22 :: 0x76 :: 0x22 :: 0x3A :: body).length, by simp, ?_⟩
  have known : layout.field? "v" =
    some (.ofShape "v" .uint32 Draft.version fun d v => { d with version := some v }) := rfl
  refine (Layout.membersFrom_field known rfl (Layout.nextKey_first _)).trans ?_
  simp only [Json.Field.ofShape, bind_assoc, pure_bind]
  rfl

/-- Whatever number stands for the version, the text is refused or read as an envelope of the very record;
and its version is the current one only if it was spelled as the digit one. -/
theorem parse_spelled (version : Numeral) (r : Record) :
    (∃ fault, layout.shape.parse (encode (spelled version.text r)) = .error fault) ∨
      ∃ v, layout.shape.parse (encode (spelled version.text r)) = .ok ⟨v, r⟩ ∧
        (v = currentVersion → version = .one) := by
  have ends : Ends (behind [("record", r.toJson)] []) := Json.behind_ends _ _
  obtain ⟨fuel, enough, members⟩ :=
    members_version (encode version.text ++ behind [("record", r.toJson)] [])
  rw [encode_spelled]
  simp only [Json.Shape.parse, Json.readAll, Layout.shape]
  rw [Layout.read_object (by decide), show Json.maxDepth - 1 = 127 from rfl, members]
  rcases version.uint32_read 127 ends.apart with ⟨fault, refused⟩ | ⟨v, read, one⟩
  · rw [refused]
    exact .inl ⟨_, rfl⟩
  · refine .inr ⟨v, ?_, one⟩
    have deeper : 1 < 127 := by decide
    have record := (record_fills v r).later deeper enough []
    rw [read]
    simp only [bind, Except.bind, record]
    rfl

end Envelope

namespace Record

/-- **A cached record comes back, under its own version only.** The text that the cache keeps of a record
holds this record; with any other number for the version, in any spelling, it holds none. In particular what
was read as a record can be cached. -/
theorem cached_under_own_version (r : Record) :
    decodeCached? r.encodeCached = some r ∧
    r.encodeCached = Envelope.spelled Numeral.one.text r ∧
    (∀ version : Numeral, version ≠ .one → decodeCached? (Envelope.spelled version.text r) = none) ∧
    ∀ text, parse text = .ok r → decodeCached? r.encodeCached = some r := by
  have survives := decodeCached?_encodeCached r
  refine ⟨survives, Envelope.encodeCached_eq r, fun version other => ?_, fun _ _ => survives⟩
  rcases Envelope.parse_spelled version r with ⟨fault, refused⟩ | ⟨v, read, one⟩
  · simp only [decodeCached?, refused]
  · have older : v ≠ Envelope.currentVersion := fun current => other (one current)
    simp only [decodeCached?, read, if_neg older]

/-- A record with a name that has to be escaped, from a year before the first, at a leap second. -/
def ancient : Record where
  id := Int64.minValue
  name := "\"\\\n"
  address := "é😀"
  status := .down
  createdAt := (Instant.ofParts? (-800000) 86399 1000000001).getD .epoch
  lastUpdated := (Instant.ofParts? 3000000 0 120).getD .epoch

/-- An old record comes back from its text in the cache, but not if that text has `1.0` for the version. -/
theorem ancient_under_own_version :
    parse (encode ancient.toJson.render) = .ok ancient ∧ decodeCached? ancient.encodeCached = some ancient ∧
    Numeral.onePointZero.text = "1.0" ∧ Numeral.onePointZero ≠ .one ∧
    decodeCached? (Envelope.spelled Numeral.onePointZero.text ancient) = none := by
  have other : Numeral.onePointZero ≠ .one := by decide
  have read : parse (encode ancient.toJson.render) = .ok ancient := (Record.reads ancient).parse (by decide)
  obtain ⟨-, -, none, cached⟩ := cached_under_own_version ancient
  exact ⟨read, cached _ read, by decide +kernel, other, none _ other⟩

end Record
end Heartbeat
