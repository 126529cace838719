import Heartbeat.Proofs.Json.Escapes
import Heartbeat.Proofs.Json.Numeral

/-! Every text that is JSON, as a tree of its parts. Blanks may stand on both sides of a value and of a key,
and inside of empty brackets; a key and a string may be spelled in any way, and an object may repeat a
name. -/
namespace Heartbeat.Json
open Text (encode)

/-- Blanks between the parts of a text. -/
structure Gap where
  bytes : Bytes := []
  allBlank : bytes.all isBlank = true := by decide

/-- Something with blanks around it. -/
structure Spaced (α : Type) where
  before : Gap := {}
  content : α
  after : Gap := {}

/-- A member of an object: a key, with blanks around it, and a value, with blanks around it. -/
structure Member (α : Type) where
  before : Gap := {}
  key : Quoted
  behind : Gap := {}
  value : Spaced α

/-- A JSON value as it is spelled. The first gap of a list or of an object stands behind its bracket. -/
inductive Phrase where
  | null
  | boolean (value : Bool)
  | number (n : Numeral)
  | string (q : Quoted)
  | list (inner : Gap) (items : List (Spaced Phrase))
  | object (inner : Gap) (members : List (Member Phrase))

mutual

def Phrase.bytes : Phrase → Bytes
  | .null => encode "null"
  | .boolean value => encode (toString value)
  | .number n => encode n.text
  | .string q => 0x22 :: q.body
  | .list inner items => 0x5B :: (inner.bytes ++ ((itemsBytes items).tail ++ [0x5D]))
  | .object inner members => 0x7B :: (inner.bytes ++ ((membersBytes members).tail ++ [0x7D]))

/-- The items of a list, each behind a comma. -/
def itemsBytes : List (Spaced Phrase) → Bytes
  | [] => []
  | ⟨before, item, after⟩ :: items =>
    0x2C :: (before.bytes ++ (item.bytes ++ (after.bytes ++ itemsBytes items)))

/-- The members of an object, each behind a comma. -/
def membersBytes : List (Member Phrase) → Bytes
  | [] => []
  | ⟨before, key, behind, front, value, after⟩ :: members =>
    0x2C :: (before.bytes ++ (0x22 :: (key.body ++ (behind.bytes ++ (0x3A :: (front.bytes ++
      (value.bytes ++ (after.bytes ++ membersBytes members))))))))

end

/-- The text of a whole document. -/
def Spaced.bytes (text : Spaced Phrase) : Bytes :=
  text.before.bytes ++ (text.content.bytes ++ text.after.bytes)

/-- The name that the key of a member spells. -/
def Member.name? (member : Member α) : Option String := member.key.text?

/-- The values of the members of this name, in their order. -/
def valuesOf (name : String) (members : List (Member Phrase)) : List Phrase :=
  (members.filter fun member => member.name? = some name).map fun member => member.value.content

/-! ## Where the parts start and end -/

theorem Gap.blank (gap : Gap) : ∀ b ∈ gap.bytes, isBlank b = true :=
  List.all_eq_true.mp gap.allBlank

theorem Gap.skipBlanks (gap : Gap) (rest : Bytes) :
    Json.skipBlanks (gap.bytes ++ rest) = Json.skipBlanks rest :=
  List.dropWhile_append_of_pos gap.blank

theorem isBlank_apart {b : UInt8} (blank : isBlank b = true) :
    isDigit b = false ∧ b ≠ 0x2E ∧ b ≠ 0x65 ∧ b ≠ 0x45 := by
  simp only [isBlank, Bool.or_eq_true, beq_iff_eq] at blank
  rcases blank with ((rfl | rfl) | rfl) | rfl <;> decide

/-- A number ends where blanks start, or where what is behind them does. -/
theorem Gap.apart (gap : Gap) {rest : Bytes} (apart : Apart rest) : Apart (gap.bytes ++ rest) := by
  have blank := gap.blank
  generalize gap.bytes = bytes at blank ⊢
  cases bytes with
  | nil => exact apart
  | cons b bytes =>
    intro first head
    cases head
    exact isBlank_apart (blank b (.head _))

theorem itemsBytes_apart (items : List (Spaced Phrase)) (rest : Bytes) :
    Apart (itemsBytes items ++ 0x5D :: rest) := by
  cases items with
  | nil => exact (ends_cons (.inr (.inl rfl))).apart
  | cons => exact (ends_cons (.inl rfl)).apart

theorem membersBytes_apart (members : List (Member Phrase)) (rest : Bytes) :
    Apart (membersBytes members ++ 0x7D :: rest) := by
  cases members with
  | nil => exact (ends_cons (.inr (.inr rfl))).apart
  | cons => exact (ends_cons (.inl rfl)).apart

/-- What a value can start with: no blank, no comma and no bracket that closes. -/
def Opens (b : UInt8) : Prop := isBlank b = false ∧ b ≠ 0x2C ∧ b ≠ 0x5D ∧ b ≠ 0x7D

instance (b : UInt8) : Decidable (Opens b) := inferInstanceAs (Decidable (_ ∧ _))

theorem ne_of_isDigit {b other : UInt8} (digit : isDigit b = true) (none : isDigit other = false) :
    b ≠ other := by
  rintro rfl
  rw [digit] at none
  cases none

theorem opens_of_isDigit {b : UInt8} (digit : isDigit b = true) : Opens b := by
  exact ⟨isBlank_of_isDigit digit, ne_of_isDigit digit rfl, ne_of_isDigit digit rfl,
    ne_of_isDigit digit rfl⟩

/-- The first byte of a value tells its kind. -/
structure Phrase.Starts (phrase : Phrase) (b : UInt8) : Prop where
  opens : Opens b
  string : b = 0x22 ↔ ∃ q, phrase = .string q
  number : b = 0x2D ∨ isDigit b = true ↔ ∃ n, phrase = .number n
  list : b = 0x5B ↔ ∃ inner items, phrase = .list inner items
  object : b = 0x7B ↔ ∃ inner members, phrase = .object inner members

theorem Phrase.starts (phrase : Phrase) : ∃ b more, phrase.bytes = b :: more ∧ phrase.Starts b := by
  cases phrase with
  | null => exact ⟨0x6E, _, rfl, by decide, by simp, by simp [isDigit], by simp, by simp⟩
  | boolean value =>
    cases value with
    | true => exact ⟨0x74, _, rfl, by decide, by simp, by simp [isDigit], by simp, by simp⟩
    | false => exact ⟨0x66, _, rfl, by decide, by simp, by simp [isDigit], by simp, by simp⟩
  | number n =>
    rcases n.encode_text [] with ⟨-, text⟩ | ⟨-, text⟩
    · rw [List.append_nil] at text
      exact ⟨0x2D, _, text, by decide, by simp, by simp, by simp, by simp⟩
    · rw [List.append_nil, Digits.encode_text] at text
      have digit := isDigit_digitByte n.whole.first
      have quote : digitByte n.whole.first ≠ 0x22 := ne_of_isDigit digit rfl
      have bracket : digitByte n.whole.first ≠ 0x5B := ne_of_isDigit digit rfl
      have brace : digitByte n.whole.first ≠ 0x7B := ne_of_isDigit digit rfl
      exact ⟨_, _, text, opens_of_isDigit digit, by simp [quote], by simp [digit], by simp [bracket],
        by simp [brace]⟩
  | string q => exact ⟨0x22, _, rfl, by decide, by simp, by simp [isDigit], by simp, by simp⟩
  | list inner items => exact ⟨0x5B, _, rfl, by decide, by simp, by simp [isDigit], by simp, by simp⟩
  | object inner members => exact ⟨0x7B, _, rfl, by decide, by simp, by simp [isDigit], by simp, by simp⟩

theorem Phrase.skipBlanks (phrase : Phrase) (rest : Bytes) :
    Json.skipBlanks (phrase.bytes ++ rest) = phrase.bytes ++ rest := by
  obtain ⟨b, more, eq, kind⟩ := phrase.starts
  rw [eq]
  exact skipBlanks_cons kind.opens.1 _

/-- Behind a gap, a value is found at its first byte. -/
theorem Phrase.front (phrase : Phrase) (gap : Gap) (rest : Bytes) :
    ∃ b more, Json.skipBlanks (gap.bytes ++ (phrase.bytes ++ rest)) = b :: more ∧
      phrase.bytes ++ rest = b :: more ∧ phrase.Starts b := by
  obtain ⟨b, more, start, kind⟩ := phrase.starts
  have text : phrase.bytes ++ rest = b :: (more ++ rest) := by rw [start, List.cons_append]
  exact ⟨b, more ++ rest, by rw [gap.skipBlanks, phrase.skipBlanks, text], text, kind⟩

end Heartbeat.Json
