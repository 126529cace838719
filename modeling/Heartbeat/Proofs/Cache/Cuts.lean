import Heartbeat.Proofs.Cache.Redaction
import Heartbeat.Proofs.Text.Ascii
import Heartbeat.Proofs.Text.Places

/-! Where redaction cuts an address. The two cuts are at the last colon in front of the first `@` and at this `@`,
unless the first `://` ends behind that colon; what stands between them is replaced, all else stays. The places
are found and compared in bytes, and none of them is within a character. In what is left the same places are found
again, so redacting it once more changes nothing. -/
namespace Heartbeat.Cache
open Text (encode decode? utf8 IsAscii firstPlace? placeBehind lastPlace?)

/-! ## The parts of an address -/

/-- What ends the scheme of an address. -/
def schemeMark : List Char := [':', '/', '/']

/-- What stands in front of the last colon that comes before the first `@`, between the two, and behind this
`@`. -/
structure Parted (url front secret rest : List Char) : Prop where
  whole : url = front ++ ':' :: (secret ++ '@' :: rest)
  front_plain : '@' ∉ front
  secret_plain : ':' ∉ secret ∧ '@' ∉ secret

/-- The first `://` ends within the front, if there is one at all. -/
def PastScheme (url front : List Char) : Prop := schemeMark <:+: url → schemeMark <:+: front

variable {url front secret rest : List Char}

theorem schemeLength_eq (chars : List Char) : schemeLength chars = firstPlace? schemeMark chars := by
  induction chars with
  | nil => rfl
  | cons c chars ih =>
    have mark : (['/', '/'].isPrefixOf chars && c == ':') = schemeMark.isPrefixOf (c :: chars) := by
      rw [Bool.and_comm, BEq.comm]
      rfl
    rw [schemeLength, firstPlace?, List.tails_cons, List.findIdx?_cons, mark, ih]
    rfl

theorem userStart_eq (chars : List Char) : userStart chars = placeBehind schemeMark chars := by
  rw [userStart, schemeLength_eq, placeBehind]
  rfl

/-- What the searches cannot cut in two places stays as it is. -/
theorem redactChars_eq_self (uncut : fromAt url = [] ∨ throughColon (beforeAt url) = [] ∨
    (throughColon (beforeAt url)).length ≤ userStart url) : redactChars url = url := by
  rw [redactChars_eq]
  split
  · rfl
  next marked =>
  split
  · rfl
  next found =>
  simp only [List.isEmpty_iff, Bool.or_eq_true, decide_eq_true_eq, not_or] at marked found
  rcases uncut with bare | unnamed | early
  · exact absurd bare marked
  · exact absurd unnamed found.1
  · exact absurd early found.2

namespace Parted

theorem behind_iff (parted : Parted url front secret rest) :
    userStart url ≤ front.length ↔ PastScheme url front := by
  have before : url.take front.length = front := by rw [parted.whole, List.take_left]
  rw [userStart_eq, Text.placeBehind_le_iff, before]
  rfl

theorem beforeAt_eq (parted : Parted url front secret rest) : beforeAt url = front ++ ':' :: secret := by
  obtain ⟨rfl, front_plain, -, no_at⟩ := parted
  have solid : '@' ∉ front ++ ':' :: secret := by simp [front_plain, no_at]
  rw [← List.cons_append, ← List.append_assoc, beforeAt_append solid, beforeAt_at, List.append_nil]

theorem throughColon_eq (parted : Parted url front secret rest) :
    throughColon (beforeAt url) = front ++ [':'] := by
  rw [parted.beforeAt_eq, throughColon_append_colon, (throughColon_eq_nil_iff secret).mpr parted.secret_plain.1]

/-- In front of a secret without separators both searches end at its ends. -/
theorem redactChars_of_past (parted : Parted url front secret rest) (past : PastScheme url front) :
    redactChars url = front ++ ':' :: '*' :: '*' :: '*' :: '@' :: rest := by
  have behind := parted.behind_iff.mpr past
  obtain ⟨rfl, front_plain, no_colon, no_at⟩ := parted
  rw [redactChars_password front_plain secret rest behind, beforeAt_of_notMem no_at,
    (throughColon_eq_nil_iff secret).mpr no_colon, (fromAt_eq_nil_iff secret).mpr no_at]
  rfl

theorem redactChars_of_not_past (parted : Parted url front secret rest) (within : ¬ PastScheme url front) :
    redactChars url = url := by
  have short := Nat.not_le.mp (mt parted.behind_iff.mp within)
  apply redactChars_eq_self
  right
  right
  rw [parted.throughColon_eq, List.length_append]
  exact short

end Parted

/-- An address has no `@`, no colon in front of the first, or the two cuts. -/
inductive Anatomy : List Char → Prop where
  | bare {url : List Char} (plain : '@' ∉ url) : Anatomy url
  | named {user rest : List Char} (plain : ':' ∉ user ∧ '@' ∉ user) : Anatomy (user ++ '@' :: rest)
  | parted {url front secret rest : List Char} (parted : Parted url front secret rest) : Anatomy url

theorem anatomy (url : List Char) : Anatomy url := by
  by_cases marked : '@' ∈ url
  · obtain ⟨before, rest, rfl, plain⟩ := List.eq_append_cons_of_mem marked
    by_cases named : ':' ∈ before
    · obtain ⟨behind, ahead, mirrored, last⟩ := List.eq_append_cons_of_mem (List.mem_reverse.mpr named)
      have split : before = ahead.reverse ++ ':' :: behind.reverse := by
        rw [← List.reverse_reverse before, mirrored]
        simp
      rw [split] at plain ⊢
      simp only [List.mem_append, List.mem_cons, not_or] at plain
      have parted : Parted (ahead.reverse ++ ':' :: behind.reverse ++ '@' :: rest) ahead.reverse behind.reverse rest :=
        ⟨by simp, plain.1, by simpa using last, plain.2.2⟩
      exact .parted parted
    · exact .named ⟨named, plain⟩
  · exact .bare marked

theorem redactChars_of_bare (plain : '@' ∉ url) : redactChars url = url :=
  redactChars_eq_self (.inl ((fromAt_eq_nil_iff url).mpr plain))

theorem redactChars_of_named {user : List Char} (plain : ':' ∉ user ∧ '@' ∉ user) :
    redactChars (user ++ '@' :: rest) = user ++ '@' :: rest := by
  apply redactChars_eq_self
  right
  left
  rw [beforeAt_append plain.2, beforeAt_at, List.append_nil]
  exact (throughColon_eq_nil_iff user).mpr plain.1

theorem exists_parted_iff :
    (∃ front secret rest, Parted url front secret rest) ↔ '@' ∈ url ∧ ':' ∈ beforeAt url := by
  constructor
  · rintro ⟨front, secret, rest, parted⟩
    rw [parted.beforeAt_eq, parted.whole]
    simp
  · rintro ⟨marked, colon⟩
    cases anatomy url with
    | bare plain => exact absurd marked plain
    | named plain =>
      rw [beforeAt_append plain.2, beforeAt_at, List.append_nil] at colon
      exact absurd colon plain.1
    | @parted _ front secret rest parted => exact ⟨front, secret, rest, parted⟩

/-- What has not the two places stays as it is. -/
theorem redactChars_of_not_parted (uncut : ¬ ∃ front secret rest, Parted url front secret rest) :
    redactChars url = url := by
  cases anatomy url with
  | bare plain => exact redactChars_of_bare plain
  | named plain => exact redactChars_of_named plain
  | @parted _ front secret rest parted => exact absurd ⟨front, secret, rest, parted⟩ uncut

/-! ## What is left -/

/-- No `://` comes of putting stars in the place of a secret. -/
theorem PastScheme.starred (past : PastScheme url front) (parted : Parted url front secret rest) :
    PastScheme (front ++ ':' :: '*' :: '*' :: '*' :: '@' :: rest) front := by
  have star : '*' ∉ schemeMark := by simp [schemeMark]
  have at_sign : '@' ∉ schemeMark := by simp [schemeMark]
  have apart : front ++ ':' :: '*' :: '*' :: '*' :: '@' :: rest =
      (front ++ [':'] ++ '*' :: ['*', '*']) ++ '@' :: rest := by simp
  intro inside
  rw [apart] at inside
  rcases Text.infix_append_cons at_sign inside with before | behind
  · rcases Text.infix_append_cons star before with early | stars
    · rcases List.infix_concat_iff.mp early with ends | within
      · -- the mark does not end with a colon
        obtain ⟨_, whole⟩ := ends
        have last := congrArg List.getLast? whole
        simp [schemeMark] at last
      · exact within
    · exact absurd stars.length_le (by simp [schemeMark])
  · have tail : rest <:+: url := ⟨front ++ ':' :: secret ++ ['@'], [], by simp [parted.whole]⟩
    exact past (behind.trans tail)

theorem redactChars_redactChars (url : List Char) : redactChars (redactChars url) = redactChars url := by
  by_cases cut : ∃ front secret rest, Parted url front secret rest
  · obtain ⟨front, secret, rest, parted⟩ := cut
    by_cases past : PastScheme url front
    · have again : Parted (front ++ ':' :: '*' :: '*' :: '*' :: '@' :: rest) front ['*', '*', '*'] rest :=
        ⟨rfl, parted.front_plain, by simp, by simp⟩
      rw [parted.redactChars_of_past past, again.redactChars_of_past (past.starred parted)]
    · rw [parted.redactChars_of_not_past past, parted.redactChars_of_not_past past]
  · rw [redactChars_of_not_parted cut, redactChars_of_not_parted cut]

/-! ## In bytes -/

/-- A text up to a place among its bytes; none if that is within a character. -/
def upTo? (text : String) (place : Nat) : Option String := decode? ((encode text).take place)

/-- A text from a place among its bytes on; none if that is within a character. -/
def from? (text : String) (place : Nat) : Option String := decode? ((encode text).drop place)

/-- Redaction by places among the bytes of an address; none if it would have to cut a character. -/
def redactAt? (url : String) : Option String :=
  let bytes := encode url
  match bytes.idxOf? '@'.toUInt8 with
  | none => some url
  | some marked => do
    let before ← upTo? url marked
    match lastPlace? ':'.toUInt8 (encode before) with
    | none => return url
    | some colon =>
      if placeBehind (encode "://") bytes ≤ colon then
        return (← upTo? url (colon + 1)) ++ "***" ++ (← from? url marked)
      else return url

theorem upTo?_append (front back : List Char) :
    upTo? (.ofList (front ++ back)) (utf8 front).length = some (.ofList front) := by
  rw [upTo?, Text.encode_eq_utf8, String.toList_ofList, Text.utf8_append, List.take_left, Text.decode?_utf8]

theorem from?_append (front back : List Char) :
    from? (.ofList (front ++ back)) (utf8 front).length = some (.ofList back) := by
  rw [from?, Text.encode_eq_utf8, String.toList_ofList, Text.utf8_append, List.drop_left, Text.decode?_utf8]

theorem ascii_at : IsAscii '@' := by decide

theorem ascii_colon : IsAscii ':' := by decide

theorem ascii_schemeMark : ∀ c ∈ schemeMark, IsAscii c := by
  intro c member
  simp only [schemeMark, List.mem_cons, List.not_mem_nil, or_false] at member
  rcases member with rfl | rfl | rfl <;> decide

theorem encode_schemeMark : encode "://" = utf8 schemeMark := Text.encode_eq_utf8 _

theorem idxOf?_utf8 {c : Char} (ascii : IsAscii c) {front : List Char} (absent : c ∉ front) (back : List Char) :
    (utf8 (front ++ c :: back)).idxOf? c.toUInt8 = some (utf8 front).length := by
  rw [Text.utf8_append, Text.utf8_cons, Text.utf8EncodeChar_of_ascii ascii, List.singleton_append]
  exact Text.idxOf?_append_cons (mt (Text.toUInt8_mem_utf8_iff ascii).mp absent)

theorem lastPlace?_utf8 {c : Char} (ascii : IsAscii c) {back : List Char} (absent : c ∉ back)
    (front : List Char) :
    lastPlace? c.toUInt8 (utf8 (front ++ c :: back)) = some (utf8 front).length := by
  rw [Text.utf8_append, Text.utf8_cons, Text.utf8EncodeChar_of_ascii ascii, List.singleton_append]
  exact Text.lastPlace?_append_cons (mt (Text.toUInt8_mem_utf8_iff ascii).mp absent)

theorem encode_ofList (chars : List Char) : encode (.ofList chars) = utf8 chars := by
  rw [Text.encode_eq_utf8, String.toList_ofList]

namespace Parted

theorem marked (parted : Parted url front secret rest) :
    (utf8 url).idxOf? '@'.toUInt8 = some (utf8 (front ++ ':' :: secret)).length := by
  have solid : '@' ∉ front ++ ':' :: secret := by simp [parted.front_plain, parted.secret_plain.2]
  have split : url = (front ++ ':' :: secret) ++ '@' :: rest := by simp [parted.whole]
  rw [split]
  exact idxOf?_utf8 ascii_at solid rest

theorem upTo?_marked (parted : Parted url front secret rest) :
    upTo? (.ofList url) (utf8 (front ++ ':' :: secret)).length = some (.ofList (front ++ ':' :: secret)) := by
  have split : url = (front ++ ':' :: secret) ++ '@' :: rest := by simp [parted.whole]
  rw [split]
  exact upTo?_append _ _

theorem from?_marked (parted : Parted url front secret rest) :
    from? (.ofList url) (utf8 (front ++ ':' :: secret)).length = some (.ofList ('@' :: rest)) := by
  have split : url = (front ++ ':' :: secret) ++ '@' :: rest := by simp [parted.whole]
  rw [split]
  exact from?_append _ _

theorem upTo?_colon (parted : Parted url front secret rest) :
    upTo? (.ofList url) ((utf8 front).length + 1) = some (.ofList (front ++ [':'])) := by
  have split : url = (front ++ [':']) ++ (secret ++ '@' :: rest) := by simp [parted.whole]
  have next : (utf8 (front ++ [':'])).length = (utf8 front).length + 1 := by
    simp [Text.utf8EncodeChar_of_ascii ascii_colon]
  rw [split, ← next]
  exact upTo?_append _ _

/-- In bytes the first `://` ends in front of the colon exactly if it does so in characters. -/
theorem placeBehind_le_iff (parted : Parted url front secret rest) :
    placeBehind (utf8 schemeMark) (utf8 url) ≤ (utf8 front).length ↔ PastScheme url front := by
  have before : (utf8 url).take (utf8 front).length = utf8 front := by
    rw [parted.whole, Text.utf8_append, List.take_left]
  rw [Text.placeBehind_le_iff, before, Text.utf8_infix_iff ascii_schemeMark,
    Text.utf8_infix_iff ascii_schemeMark]
  rfl

end Parted

/-- **No cut is within a character**, and what the bytes come to is what the characters come to. -/
theorem redactAt?_eq (url : String) : redactAt? url = some (redact url) := by
  have whole : url = .ofList url.toList := String.ofList_toList.symm
  rw [redact]
  generalize url.toList = chars at whole
  subst whole
  cases anatomy chars with
  | bare plain =>
    have unmarked := List.idxOf?_eq_none_iff.mpr (mt (Text.toUInt8_mem_utf8_iff ascii_at).mp plain)
    simp only [redactAt?, encode_ofList, unmarked, redactChars_of_bare plain]
  | @named user rest plain =>
    have marked := idxOf?_utf8 ascii_at plain.2 rest
    have colonless := Text.lastPlace?_eq_none (mt (Text.toUInt8_mem_utf8_iff ascii_colon).mp plain.1)
    simp only [redactAt?, encode_ofList, marked, upTo?_append, Option.bind_eq_bind, Option.bind_some, colonless,
      redactChars_of_named plain]
    rfl
  | @parted _ front secret rest parted =>
    have colon := lastPlace?_utf8 ascii_colon parted.secret_plain.1 front
    simp only [redactAt?, encode_ofList, parted.marked, parted.upTo?_marked, Option.bind_eq_bind,
      Option.bind_some, colon]
    rw [encode_schemeMark]
    by_cases past : PastScheme chars front
    · rw [if_pos (parted.placeBehind_le_iff.mpr past), parted.upTo?_colon, parted.from?_marked,
        parted.redactChars_of_past past]
      simp only [Option.bind_some, Option.pure_def, Option.some.injEq, ← String.toList_inj]
      simp
    · rw [if_neg (mt parted.placeBehind_le_iff.mp past), parted.redactChars_of_not_past past]
      rfl

/-- **Redaction is local.** It never cuts a character. If a colon comes before the first `@` and the first `://` ends
in front of the last such colon, or there is none, what stands between this colon and this `@` is replaced by
three stars, and all else stays; any other address stays as it is. What is left is not changed by doing it again. -/
theorem redaction_is_local (url : String) :
    redactAt? url = some (redact url) ∧
    ((∃ front secret rest, Parted url.toList front secret rest) ↔
      '@' ∈ url.toList ∧ ':' ∈ beforeAt url.toList) ∧
    (∀ front secret rest, Parted url.toList front secret rest →
      (PastScheme url.toList front → redact url = .ofList (front ++ ':' :: '*' :: '*' :: '*' :: '@' :: rest)) ∧
      (¬ PastScheme url.toList front → redact url = url)) ∧
    ((¬ ∃ front secret rest, Parted url.toList front secret rest) → redact url = url) ∧
    redact (redact url) = redact url := by
  have unchanged (same : redactChars url.toList = url.toList) : redact url = url := by
    rw [redact, same, String.ofList_toList]
  refine ⟨redactAt?_eq url, exists_parted_iff, ?_, ?_, ?_⟩
  · intro front secret rest parted
    constructor
    · intro past
      rw [redact, parted.redactChars_of_past past]
    · intro within
      exact unchanged (parted.redactChars_of_not_past within)
  · intro uncut
    exact unchanged (redactChars_of_not_parted uncut)
  · rw [redact, redact, String.toList_ofList, redactChars_redactChars]

/-- Characters of several bytes stand on both sides of the cuts, and between them. -/
theorem wide_characters_stay_whole :
    Parted "rédis://zoë:日本:ключ@höst".toList "rédis://zoë:日本".toList "ключ".toList "höst".toList ∧
    PastScheme "rédis://zoë:日本:ключ@höst".toList "rédis://zoë:日本".toList ∧
    redact "rédis://zoë:日本:ключ@höst" = "rédis://zoë:日本:***@höst" := by
  have parted : Parted "rédis://zoë:日本:ключ@höst".toList "rédis://zoë:日本".toList "ключ".toList
      "höst".toList := ⟨by simp, by simp, by simp⟩
  have past : PastScheme "rédis://zoë:日本:ключ@höst".toList "rédis://zoë:日本".toList := by
    intro _
    exact ⟨"rédis".toList, "zoë:日本".toList, by simp [schemeMark]⟩
  obtain ⟨-, -, cut, -⟩ := redaction_is_local "rédis://zoë:日本:ключ@höst"
  refine ⟨parted, past, ?_⟩
  rw [(cut _ _ _ parted).1 past]
  simp

end Heartbeat.Cache
