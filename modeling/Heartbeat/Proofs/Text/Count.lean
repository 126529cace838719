import Mathlib.Algebra.Group.Nat.Defs
import Mathlib.Tactic.Common
import Heartbeat.Text.Count

/-! A count is read from the texts that spell one and from no others. The reader gives up as soon as what it has
read is too large; since digits never make a number smaller, it then gives up on nothing that would have fit. -/
namespace Heartbeat.Text

open Decimal (isDigitChar valueOf charValue)

/-- The text is one or more digits, after a plus sign perhaps. -/
structure Numeral (text : String) (digits : List Char) : Prop where
  written : text.toList = digits ∨ text.toList = '+' :: digits
  nonempty : digits ≠ []
  digit : ∀ c ∈ digits, isDigitChar c = true

/-- The text spells a number below `2 ^ 64`. -/
def Counts (text : String) (n : UInt64) : Prop :=
  ∃ digits, Numeral text digits ∧ valueOf digits < 2 ^ 64 ∧ n = UInt64.ofNat (valueOf digits)

/-- What a number becomes when digits are put behind it. -/
def extend (n : Nat) (digits : List Char) : Nat := digits.foldl (fun n c => n * 10 + charValue c) n

theorem le_extend (n : Nat) (digits : List Char) : n ≤ extend n digits := by
  induction digits generalizing n with
  | nil => exact Nat.le_refl n
  | cons c digits ih =>
    calc n ≤ n * 10 + charValue c := by omega
      _ ≤ extend (n * 10 + charValue c) digits := ih _

/-- Digits are read up to their end exactly if they are digits and what they make of the number fits. -/
theorem appendDigits_eq_ok_iff {n m : Nat} {digits : List Char} (fits : n < 2 ^ 64) :
    appendDigits n digits = .ok m ↔
      (∀ c ∈ digits, isDigitChar c = true) ∧ extend n digits < 2 ^ 64 ∧ m = extend n digits := by
  induction digits generalizing n with
  | nil =>
    constructor
    · intro read
      cases read
      exact ⟨by simp, fits, rfl⟩
    · rintro ⟨-, -, rfl⟩
      rfl
  | cons c digits ih =>
    have longer : extend n (c :: digits) = extend (n * 10 + charValue c) digits := rfl
    rw [longer, List.forall_mem_cons]
    by_cases digit : isDigitChar c = true
    · by_cases room : n * 10 + charValue c < 2 ^ 64
      · have step : appendDigits n (c :: digits) = appendDigits (n * 10 + charValue c) digits := by
          rw [appendDigits, if_neg (not_not.mpr digit)]
          exact if_pos room
        rw [step, ih room]
        simp [digit]
      · -- what is too large already stays so
        have large := le_extend (n * 10 + charValue c) digits
        have step : appendDigits n (c :: digits) = .error .tooLarge := by
          rw [appendDigits, if_neg (not_not.mpr digit)]
          exact if_neg room
        rw [step]
        constructor
        · intro read
          cases read
        · rintro ⟨-, below, -⟩
          omega
    · have step : appendDigits n (c :: digits) = .error .invalidDigit := by
        rw [appendDigits, if_pos digit]
      rw [step]
      constructor
      · intro read
        cases read
      · rintro ⟨⟨good, -⟩, -⟩
        exact absurd good digit

/-- The characters of a text behind its plus sign, if it has one. -/
def unsigned (text : String) : List Char :=
  match text.toList with
  | '+' :: rest => rest
  | chars => chars

theorem readCount_eq (text : String) : readCount text =
    if text.isEmpty then .error .empty
    else if (unsigned text).isEmpty then .error .invalidDigit
    else (appendDigits 0 (unsigned text)).map UInt64.ofNat := rfl

/-- No digit is a plus sign, so the digits of a numeral are what stands behind one. -/
theorem Numeral.unsigned_eq {text : String} {digits : List Char} (numeral : Numeral text digits) :
    unsigned text = digits := by
  rcases numeral.written with written | written
  · unfold unsigned
    split
    · next rest signed =>
      have plus : '+' ∈ digits := by
        rw [← written, signed]
        exact List.mem_cons_self
      exact absurd (numeral.digit '+' plus) (by decide)
    · exact written
  · simp [unsigned, written]

theorem written_unsigned (text : String) :
    text.toList = unsigned text ∨ text.toList = '+' :: unsigned text := by
  unfold unsigned
  split
  · next rest signed => exact .inr signed
  · exact .inl rfl

/-- **A count is read exactly from the texts that spell it.** -/
theorem readCount_eq_ok_iff {text : String} {n : UInt64} : readCount text = .ok n ↔ Counts text n := by
  constructor
  · intro read
    rw [readCount_eq] at read
    split at read
    · cases read
    split at read
    · cases read
    next more =>
    cases appended : appendDigits 0 (unsigned text) with
    | error fault => simp [appended, Except.map] at read
    | ok value =>
      obtain ⟨digit, below, rfl⟩ := (appendDigits_eq_ok_iff (by decide)).mp appended
      rw [appended] at read
      cases read
      exact ⟨unsigned text, ⟨written_unsigned text, by simpa using more, digit⟩, below, rfl⟩
  · rintro ⟨digits, numeral, below, rfl⟩
    have value : appendDigits 0 digits = .ok (valueOf digits) :=
      (appendDigits_eq_ok_iff (by decide)).mpr ⟨numeral.digit, below, rfl⟩
    have text_filled : text.isEmpty = false := by
      rw [Bool.eq_false_iff]
      intro blank
      rw [String.isEmpty_iff.mp blank] at numeral
      rcases numeral.written with written | written
      · exact numeral.nonempty written.symm
      · cases written
    have digits_filled : digits.isEmpty = false := List.isEmpty_eq_false_iff.mpr numeral.nonempty
    rw [readCount_eq, numeral.unsigned_eq, text_filled, digits_filled, value]
    rfl

theorem Counts.unique {text : String} {n m : UInt64} (first : Counts text n) (second : Counts text m) : n = m := by
  have same := (readCount_eq_ok_iff.mpr first).symm.trans (readCount_eq_ok_iff.mpr second)
  exact Except.ok.inj same

end Heartbeat.Text
