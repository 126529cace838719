import Heartbeat.Signal
import Heartbeat.Proofs.Json.Spelled

/-! All the texts that are a heartbeat. A message is read from every object that has its three members once
each, in any order, among any others, and from the list of its three values; nothing else is a message, and
nothing but blanks may stand behind it. -/
namespace Heartbeat
open Json (Phrase Gap Member Spaced Numeral Layout Field Shape valuesOf)
open Text (encode trim)

/-- The message is what the phrase spells. -/
inductive Message.SpelledBy (m : Message) : Phrase → Prop where
  | object {inner : Gap} {members : List (Member Phrase)} {ip time duration : Phrase}
      (named : ∀ member ∈ members, member.name?.isSome)
      (ipOnce : valuesOf "ip" members = [ip]) (timeOnce : valuesOf "time" members = [time])
      (durationOnce : valuesOf "duration" members = [duration])
      (isIp : ip.IsText m.ip) (isTime : time.IsInt64 m.time) (isDuration : duration.IsInt64 m.duration) :
      SpelledBy m (.object inner members)
  | list {inner : Gap} {items : List (Spaced Phrase)} {ip time duration : Phrase}
      (three : items.map Spaced.content = [ip, time, duration])
      (isIp : ip.IsText m.ip) (isTime : time.IsInt64 m.time) (isDuration : duration.IsInt64 m.duration) :
      SpelledBy m (.list inner items)

/-! ## Members -/

/-- Values of one name fill what holds one value: none of them, or one where nothing was held. -/
def Fill (Means : Phrase → β → Prop) : Option β → List Phrase → Option β → Prop
  | held, [], final => final = held
  | held, phrase :: phrases, final => held = none ∧ ∃ b, Means phrase b ∧ Fill Means (some b) phrases final

theorem fill_once {Means : Phrase → β → Prop} {phrases : List Phrase} {b : β} :
    Fill Means none phrases (some b) ↔ ∃ phrase, phrases = [phrase] ∧ Means phrase b := by
  match phrases with
  | [] => simp [Fill]
  | [phrase] => simp [Fill]
  | _ :: _ :: _ => simp [Fill]

theorem valuesOf_cons {name other : String} {member : Member Phrase} {members : List (Member Phrase)}
    (named : member.name? = some name) :
    valuesOf other (member :: members) =
      if name = other then member.value.content :: valuesOf other members else valuesOf other members := by
  simp only [valuesOf, List.filter_cons, named, Option.some.injEq, decide_eq_true_eq]
  split <;> rfl

namespace Message

/-- Where a value takes the draft of a message, under its name. -/
def Takes : String → Draft → Phrase → Draft → Prop
  | "ip", draft, phrase, next => ∃ ip, phrase.IsText ip ∧ next = { draft with ip := some ip }
  | "time", draft, phrase, next => ∃ time, phrase.IsInt64 time ∧ next = { draft with time := some time }
  | "duration", draft, phrase, next =>
    ∃ duration, phrase.IsInt64 duration ∧ next = { draft with duration := some duration }
  | _, _, _, _ => False

theorem layout_understands : ∀ field ∈ layout.fields, field.Understands (Takes field.name) := by
  simp only [layout, List.forall_mem_cons]
  exact ⟨Field.ofShape_understands Shape.text_understands, Field.ofShape_understands Shape.int64_understands,
    Field.ofShape_understands Shape.int64_understands, nofun⟩

theorem layout_mandatory : ∀ field ∈ layout.fields, field.mayEnd = false := by
  simp [layout, Field.ofShape]

theorem build_iff {draft : Draft} {m : Message} :
    layout.build draft = .ok m ↔
      draft.ip = some m.ip ∧ draft.time = some m.time ∧ draft.duration = some m.duration := by
  obtain ⟨ip, time, duration⟩ := draft
  obtain ⟨ip', time', duration'⟩ := m
  cases ip <;> cases time <;> cases duration <;>
    simp [layout, required, bind, Except.bind, pure, Except.pure]

/-- A name is that of one of the three fields, or of none. -/
theorem field?_cases (name : String) :
    (name = "ip" ∧ layout.field? name =
      some (.ofShape "ip" .text Draft.ip fun d ip => { d with ip := some ip })) ∨
    (name = "time" ∧ layout.field? name =
      some (.ofShape "time" .int64 Draft.time fun d time => { d with time := some time })) ∨
    (name = "duration" ∧ layout.field? name =
      some (.ofShape "duration" .int64 Draft.duration
        fun d duration => { d with duration := some duration })) ∨
    (name ≠ "ip" ∧ name ≠ "time" ∧ name ≠ "duration" ∧ layout.field? name = none) := by
  by_cases ip : name = "ip"
  · exact .inl ⟨ip, by rw [ip]; rfl⟩
  · by_cases time : name = "time"
    · exact .inr (.inl ⟨time, by rw [time]; rfl⟩)
    · by_cases duration : name = "duration"
      · exact .inr (.inr (.inl ⟨duration, by rw [duration]; rfl⟩))
      · refine .inr (.inr (.inr ⟨ip, time, duration, ?_⟩))
        simp [Layout.field?, layout, Field.ofShape, Ne.symm ip, Ne.symm time, Ne.symm duration]

/-- Members gather into a draft, each name for itself. -/
theorem gathers_iff {draft final : Draft} {members : List (Member Phrase)} :
    layout.Gathers Takes draft members final ↔
      (∀ member ∈ members, member.name?.isSome) ∧
        Fill Phrase.IsText draft.ip (valuesOf "ip" members) final.ip ∧
        Fill Phrase.IsInt64 draft.time (valuesOf "time" members) final.time ∧
        Fill Phrase.IsInt64 draft.duration (valuesOf "duration" members) final.duration := by
  induction members generalizing draft with
  | nil =>
    obtain ⟨ip, time, duration⟩ := draft
    obtain ⟨ip', time', duration'⟩ := final
    simp [Layout.Gathers, valuesOf, Fill]
  | cons member members ih =>
    cases named : member.name? with
    | none => simp [Layout.Gathers, Layout.Joins, named]
    | some name =>
      rcases field?_cases name with ⟨rfl, known⟩ | ⟨rfl, known⟩ | ⟨rfl, known⟩ | ⟨ip, time, duration, known⟩
      case inr.inr.inr =>
        simp [Layout.Gathers, Layout.Joins, named, known, ih, valuesOf_cons named, ip, time, duration]
      -- the member adds its value to the values of its own name
      all_goals
        simp [Layout.Gathers, Layout.Joins, named, known, Takes, ih, valuesOf_cons named, Fill, Field.ofShape]
        grind

/-- The items of a list fill a draft if there is one for each field. -/
theorem lists_iff {final : Draft} {items : List (Spaced Phrase)} :
    Layout.Lists Takes layout.fields layout.empty items final ↔
      ∃ ip time duration, items.map Spaced.content = [ip, time, duration] ∧
        (∃ b, ip.IsText b ∧ final.ip = some b) ∧ (∃ b, time.IsInt64 b ∧ final.time = some b) ∧
          ∃ b, duration.IsInt64 b ∧ final.duration = some b := by
  obtain ⟨ip, time, duration⟩ := final
  match items with
  | [] => simp [Layout.Lists, layout]
  | [_] => simp [Layout.Lists, layout]
  | [_, _] => simp [Layout.Lists, layout]
  | [first, second, third] =>
    simp [Layout.Lists, layout, Takes, Field.ofShape]
    grind
  | _ :: _ :: _ :: _ :: _ => simp [Layout.Lists, layout]

/-- **A message is read from what spells it**, with nothing but blanks around it, and from nothing else. -/
theorem parse_iff (gap : Gap) (phrase : Phrase) {rest : Bytes} {m : Message} :
    parse (gap.bytes ++ (phrase.bytes ++ rest)) = .ok m ↔
      m.SpelledBy phrase ∧ ∀ b ∈ rest, Json.isBlank b = true := by
  have built : layout.build ⟨some m.ip, some m.time, some m.duration⟩ = .ok m :=
    build_iff.mpr ⟨rfl, rfl, rfl⟩
  rw [parse, Layout.parse_iff layout_understands layout_mandatory]
  refine and_congr_left fun _ => ⟨fun spells => ?_, fun spelled => ?_⟩
  · cases spells with
    | object gathers built =>
      obtain ⟨hasIp, hasTime, hasDuration⟩ := build_iff.mp built
      obtain ⟨named, ip, time, duration⟩ := gathers_iff.mp gathers
      rw [hasIp] at ip
      rw [hasTime] at time
      rw [hasDuration] at duration
      obtain ⟨_, ipOnce, isIp⟩ := fill_once.mp ip
      obtain ⟨_, timeOnce, isTime⟩ := fill_once.mp time
      obtain ⟨_, durationOnce, isDuration⟩ := fill_once.mp duration
      exact .object named ipOnce timeOnce durationOnce isIp isTime isDuration
    | list lists built =>
      obtain ⟨hasIp, hasTime, hasDuration⟩ := build_iff.mp built
      obtain ⟨_, _, _, three, ip, time, duration⟩ := lists_iff.mp lists
      simp only [hasIp, hasTime, hasDuration, Option.some.injEq, exists_eq_right'] at ip time duration
      exact .list three ip time duration
  · cases spelled with
    | object named ipOnce timeOnce durationOnce isIp isTime isDuration =>
      refine .object (gathers_iff.mpr ⟨named, ?_⟩) built
      exact ⟨fill_once.mpr ⟨_, ipOnce, isIp⟩, fill_once.mpr ⟨_, timeOnce, isTime⟩,
        fill_once.mpr ⟨_, durationOnce, isDuration⟩⟩
    | list three isIp isTime isDuration =>
      exact .list (lists_iff.mpr ⟨_, _, _, three, ⟨_, isIp, rfl⟩, ⟨_, isTime, rfl⟩, _, isDuration, rfl⟩) built

end Message

/-! ## What is no heartbeat -/

/-- Why a value is no heartbeat. -/
inductive Faulty : Phrase → Prop where
  /-- A member is missing, or there is more than one of its name. -/
  | notOnce {inner : Gap} {members : List (Member Phrase)} {name : String}
      (wanted : name ∈ ["ip", "time", "duration"]) (amount : (valuesOf name members).length ≠ 1) :
      Faulty (.object inner members)
  /-- The time or the duration is something else. -/
  | notInteger {inner : Gap} {members : List (Member Phrase)} {name : String} {value : Phrase}
      (numeric : name ∈ ["time", "duration"]) (here : value ∈ valuesOf name members)
      (other : ∀ k, ¬ value.IsInt64 k) : Faulty (.object inner members)
  | wrongLength {inner : Gap} {items : List (Spaced Phrase)} (length : items.length ≠ 3) :
      Faulty (.list inner items)
  | notIntegerAt {inner : Gap} {items : List (Spaced Phrase)} {index : Nat} {value : Phrase}
      (numeric : index = 1 ∨ index = 2) (here : (items.map Spaced.content)[index]? = some value)
      (other : ∀ k, ¬ value.IsInt64 k) : Faulty (.list inner items)

theorem Faulty.not_spelledBy {phrase : Phrase} (faulty : Faulty phrase) (m : Message) :
    ¬ m.SpelledBy phrase := by
  intro spelled
  cases spelled with
  | object named ipOnce timeOnce durationOnce isIp isTime isDuration =>
    cases faulty with
    | notOnce wanted amount =>
      simp only [List.mem_cons, List.not_mem_nil, or_false] at wanted
      rcases wanted with rfl | rfl | rfl <;> simp_all
    | notInteger numeric here other =>
      simp only [List.mem_cons, List.not_mem_nil, or_false] at numeric
      rcases numeric with rfl | rfl <;> simp_all
  | list three isIp isTime isDuration =>
    cases faulty with
    | wrongLength length =>
      exact length (by simpa using congrArg List.length three)
    | notIntegerAt numeric here other =>
      rw [three] at here
      rcases numeric with rfl | rfl
      · cases here
        exact other _ isTime
      · cases here
        exact other _ isDuration

/-- An integer has no fraction and no exponent, and zero has no sign. -/
theorem plain_of_isInt64 {n : Numeral} {k : Int64} (integral : (Phrase.number n).IsInt64 k) :
    n.fraction = none ∧ n.exponent = none ∧ n.text ≠ "-0" := by
  obtain ⟨n', same, text⟩ := integral
  cases same
  -- the text of an integer is read back as one, and the reader says how such a number is spelled
  have low := k.le_toInt
  have high := k.toInt_lt
  have apart : Json.Apart [] := nofun
  have read := Json.number?_toString (n := k.toInt) (by omega) (by omega) apart
  rw [← text] at read
  obtain ⟨result, found, integer⟩ := n.number?_text apart
  rw [read] at found
  obtain ⟨-, noFraction, noExponent, -⟩ := integer _ _ (Option.some.inj found).symm
  refine ⟨noFraction, noExponent, fun zero => ?_⟩
  rw [zero] at read
  have signed : Json.afterDigits true 0 0 [] = .ok (.integer k.toInt, []) := Option.some.inj read
  obtain ⟨-, -, -, solid, -⟩ := Json.afterDigits_integer signed
  exact solid rfl rfl

namespace Signal

/-- The payload is rejected as malformed. -/
def Malformed (payload : Bytes) : Prop := ∃ error, decode payload = .error (.malformed error)

theorem malformed_of_unread {payload : Bytes} (unread : ∀ m, Message.parse payload ≠ .ok m) :
    Malformed payload := by
  cases parsed : Message.parse payload with
  | ok m => exact absurd parsed (unread m)
  | error error => exact ⟨error, by rw [decode, parsed]; rfl⟩

/-- **All spellings of a heartbeat are decoded alike**, wherever its blanks stand and whatever else it holds;
and what is no heartbeat is rejected, as is anything behind a value. A number with a fraction or an exponent
is no integer, nor is `-0`. -/
theorem spellings_decode_alike (before : Gap) (phrase : Phrase) :
    (∀ (after : Gap) (m : Message), m.SpelledBy phrase → trim m.ip ≠ "" →
      decode (before.bytes ++ (phrase.bytes ++ after.bytes)) = .ok ⟨trim m.ip, m.time, m.duration⟩) ∧
    (∀ after : Gap, Faulty phrase → Malformed (before.bytes ++ (phrase.bytes ++ after.bytes))) ∧
    (∀ rest, (∃ b ∈ rest, Json.isBlank b = false) → Malformed (before.bytes ++ (phrase.bytes ++ rest))) ∧
    ∀ (n : Numeral) (k : Int64), n.fraction ≠ none ∨ n.exponent ≠ none ∨ n.text = "-0" →
      ¬ (Phrase.number n).IsInt64 k := by
  refine ⟨fun after m spelled named => ?_, fun after faulty => ?_, fun rest ⟨b, member, solid⟩ => ?_,
    fun n k float integral => ?_⟩
  · have read := (Message.parse_iff before phrase).mpr ⟨spelled, after.blank⟩
    rw [decode, read]
    exact if_neg named
  · refine malformed_of_unread fun m read => ?_
    exact faulty.not_spelledBy m ((Message.parse_iff before phrase).mp read).1
  · refine malformed_of_unread fun m read => ?_
    have blank := ((Message.parse_iff before phrase).mp read).2 b member
    rw [blank] at solid
    cases solid
  · obtain ⟨noFraction, noExponent, unsigned⟩ := plain_of_isInt64 integral
    rcases float with fraction | exponent | zero
    · exact fraction noFraction
    · exact exponent noExponent
    · exact unsigned zero

/-- An object with an escape in its first key, a member that nobody asked for, and the given time. -/
def scattered (time : Numeral) : Phrase :=
  .object {} [
    { key := ⟨[.unit ⟨⟨0, false⟩, ⟨0, false⟩, ⟨6, false⟩, ⟨9, false⟩⟩, .plain 'p' (by decide)]⟩
      value := { content := .string ⟨[.short .tab, .plain 'h' (by decide)]⟩ } },
    { key := .plain ['x']
      value := { content := .list {} [{ content := .null }, { content := .object {} [] }] } },
    { key := .plain "duration".toList, value := { content := .number .one } },
    { before := { bytes := [0x0A] }, key := .plain "time".toList, value := { content := .number time } }]

example : (scattered .leastInt64).bytes = encode
    "\x7b\"\\u0069p\":\"\\th\",\"x\":[null,\x7b\x7d],\"duration\":1,\n\"time\":-9223372036854775808\x7d" := by
  decide +kernel

/-- The object is read with the least time and a blank behind it, but not with a fraction in its time, or
with another brace behind it. -/
theorem scattered_is_read :
    decode ((scattered .leastInt64).bytes ++ [0x0A]) = .ok ⟨"h", Int64.minValue, 1⟩ ∧
    Malformed ((scattered .onePointZero).bytes ++ []) ∧
    Malformed ((scattered .leastInt64).bytes ++ [0x7D]) ∧ ¬ (Phrase.number .onePointZero).IsInt64 1 := by
  have spelled : Message.SpelledBy ⟨"\th", Int64.minValue, 1⟩ (scattered .leastInt64) := by
    refine .object (by decide +kernel) rfl rfl rfl ?_ ?_ ?_
    · exact ⟨_, rfl, by decide +kernel⟩
    · exact ⟨_, rfl, by decide +kernel⟩
    · exact ⟨_, rfl, by decide +kernel⟩
  have named : trim "\th" ≠ "" := by decide +kernel
  have host : trim "\th" = "h" := by decide +kernel
  obtain ⟨read, -, trailing, float⟩ := spellings_decode_alike {} (scattered .leastInt64)
  obtain ⟨-, faulty, -, -⟩ := spellings_decode_alike {} (scattered .onePointZero)
  have noInteger (k : Int64) := float .onePointZero k (.inl nofun)
  refine ⟨?_, ?_, ?_, noInteger 1⟩
  · have decoded := read { bytes := [0x0A] } _ spelled named
    rwa [host] at decoded
  · refine faulty {} (.notInteger (.head _ : "time" ∈ ["time", "duration"]) ?_ noInteger)
    exact (.head _ : Phrase.number .onePointZero ∈ [Phrase.number .onePointZero])
  · exact trailing [0x7D] ⟨0x7D, .head _, by decide⟩

end Signal
end Heartbeat
