import Mathlib.Data.List.Infix
import Mathlib.Tactic.Common
import Heartbeat.Text.Utf8

/-! The first 128 characters in the bytes of a text. Each of them is one byte, which no other character has among
its own; so where such a byte is found, the character is, and what stands in front of it and behind it is text. -/
namespace Heartbeat.Text

/-- The bytes that are written for characters. -/
def utf8 (chars : List Char) : Bytes := chars.flatMap String.utf8EncodeChar

@[simp]
theorem utf8_nil : utf8 [] = [] := rfl

@[simp]
theorem utf8_cons (c : Char) (chars : List Char) :
    utf8 (c :: chars) = String.utf8EncodeChar c ++ utf8 chars := List.flatMap_cons

@[simp]
theorem utf8_append (front back : List Char) : utf8 (front ++ back) = utf8 front ++ utf8 back :=
  List.flatMap_append

theorem encode_eq_utf8 (text : String) : encode text = utf8 text.toList := by
  rw [encode, ← String.utf8Encode_toList]
  simp [utf8, List.utf8Encode]

theorem decode?_utf8 (chars : List Char) : decode? (utf8 chars) = some (String.ofList chars) := by
  have written := decode?_encode (String.ofList chars)
  rwa [encode_eq_utf8, String.toList_ofList] at written

/-- The character is one of the first 128. -/
def IsAscii (c : Char) : Prop := c.toNat < 0x80

instance (c : Char) : Decidable (IsAscii c) := inferInstanceAs (Decidable (c.toNat < 0x80))

variable {c d : Char}

theorem toNat_toUInt8 (ascii : IsAscii c) : c.toUInt8.toNat = c.toNat :=
  UInt8.toNat_ofNat_of_lt' (Nat.lt_trans ascii (by decide))

theorem utf8EncodeChar_of_ascii (ascii : IsAscii c) : String.utf8EncodeChar c = [c.toUInt8] :=
  if_pos (Nat.le_of_lt_succ ascii)

/-- The bytes of all other characters are marked. -/
theorem marked_of_not_ascii (wide : ¬ IsAscii c) : ∀ b ∈ String.utf8EncodeChar c, 0x80 ≤ b.toNat := by
  have beyond : ¬ c.val.toNat ≤ 127 := fun small => wide (Nat.lt_succ_of_le small)
  unfold String.utf8EncodeChar
  dsimp only
  rw [if_neg beyond]
  split_ifs
  all_goals
    simp only [List.forall_mem_cons, List.not_mem_nil, false_imp_iff, implies_true, and_true, UInt8.toNat_ofNat']
    omega

/-- The byte of one character is no part of another. -/
theorem toUInt8_mem_iff (ascii : IsAscii c) : c.toUInt8 ∈ String.utf8EncodeChar d ↔ d = c := by
  constructor
  · intro member
    by_cases other : IsAscii d
    · rw [utf8EncodeChar_of_ascii other, List.mem_singleton] at member
      have numbers := congrArg UInt8.toNat member
      rw [toNat_toUInt8 ascii, toNat_toUInt8 other] at numbers
      exact Char.toNat_inj.mp numbers.symm
    · have marked := marked_of_not_ascii other _ member
      rw [toNat_toUInt8 ascii] at marked
      exact absurd ascii (Nat.not_lt.mpr marked)
  · rintro rfl
    rw [utf8EncodeChar_of_ascii ascii]
    exact List.mem_singleton_self _

theorem toUInt8_mem_utf8_iff (ascii : IsAscii c) {chars : List Char} :
    c.toUInt8 ∈ utf8 chars ↔ c ∈ chars := by
  simp only [utf8, List.mem_flatMap, toUInt8_mem_iff ascii]
  constructor
  · rintro ⟨d, member, rfl⟩
    exact member
  · intro member
    exact ⟨c, member, rfl⟩

/-- **Bytes fall apart at such a byte as the text does at its character.** -/
theorem exists_of_utf8_eq (ascii : IsAscii c) {chars : List Char} {before after : Bytes}
    (whole : utf8 chars = before ++ c.toUInt8 :: after) :
    ∃ front back, chars = front ++ c :: back ∧ utf8 front = before ∧ utf8 back = after := by
  induction chars generalizing before with
  | nil => simp at whole
  | cons d chars ih =>
    rw [utf8_cons, List.append_eq_append_iff] at whole
    rcases whole with ⟨more, rfl, later⟩ | ⟨part, own, later⟩
    · -- the byte comes behind the first character
      obtain ⟨front, back, rfl, rfl, rfl⟩ := ih later
      exact ⟨d :: front, back, rfl, rfl, rfl⟩
    · cases part with
      | nil =>
        have start : utf8 chars = [] ++ c.toUInt8 :: after := later.symm
        obtain ⟨front, back, rfl, nothing, rfl⟩ := ih start
        refine ⟨d :: front, back, rfl, ?_, rfl⟩
        rw [utf8_cons, own, nothing, List.append_nil, List.append_nil]
      | cons b part =>
        -- the byte is all of the first character
        obtain ⟨rfl, rest⟩ := List.cons.inj later
        have here : c.toUInt8 ∈ String.utf8EncodeChar d := by simp [own]
        obtain rfl := (toUInt8_mem_iff ascii).mp here
        rw [utf8EncodeChar_of_ascii ascii, List.singleton_eq_append_iff] at own
        simp only [List.cons_ne_nil, and_false, or_false, List.cons.injEq] at own
        obtain ⟨rfl, -, rfl⟩ := own
        exact ⟨[], chars, rfl, rfl, rest.symm⟩

theorem utf8_eq_nil_iff {chars : List Char} : utf8 chars = [] ↔ chars = [] := by
  cases chars with
  | nil => simp
  | cons c chars => simp [String.utf8EncodeChar_ne_nil]

/-- Such characters start a text where their bytes start its bytes. -/
theorem utf8_prefix_iff {piece chars : List Char} (ascii : ∀ c ∈ piece, IsAscii c) :
    utf8 piece <+: utf8 chars ↔ piece <+: chars := by
  constructor
  · intro starts
    induction piece generalizing chars with
    | nil => exact List.nil_prefix
    | cons c piece ih =>
      obtain ⟨own, others⟩ := List.forall_mem_cons.mp ascii
      obtain ⟨after, whole⟩ := starts
      rw [utf8_cons, utf8EncodeChar_of_ascii own] at whole
      have start : utf8 chars = [] ++ c.toUInt8 :: (utf8 piece ++ after) := whole.symm
      obtain ⟨front, back, rfl, nothing, later⟩ := exists_of_utf8_eq own start
      obtain rfl := utf8_eq_nil_iff.mp nothing
      exact (List.prefix_cons_inj c).mpr (ih others ⟨after, later.symm⟩)
  · rintro ⟨back, rfl⟩
    exact ⟨utf8 back, (utf8_append _ _).symm⟩

/-- Such characters are in a text where their bytes are in its bytes. -/
theorem utf8_infix_iff {piece chars : List Char} (ascii : ∀ c ∈ piece, IsAscii c) :
    utf8 piece <:+: utf8 chars ↔ piece <:+: chars := by
  constructor
  · rintro ⟨before, after, whole⟩
    cases piece with
    | nil => exact List.nil_infix
    | cons c piece =>
      obtain ⟨own, others⟩ := List.forall_mem_cons.mp ascii
      rw [utf8_cons, utf8EncodeChar_of_ascii own, List.append_assoc] at whole
      obtain ⟨front, back, rfl, -, later⟩ := exists_of_utf8_eq own whole.symm
      have starts : piece <+: back := (utf8_prefix_iff others).mp ⟨after, later.symm⟩
      exact ((List.prefix_cons_inj c).mpr starts).isInfix.trans (List.suffix_append front _).isInfix
  · rintro ⟨front, back, rfl⟩
    exact ⟨utf8 front, utf8 back, by simp⟩

end Heartbeat.Text
