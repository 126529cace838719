import Heartbeat.Proofs.Time.Calendar
import Heartbeat.Time.Scan

/-! What an instant is written as reads back to the same instant. Both readers gather the numbers of
a `Stamp`, so each form is shown to read the stamp of the instant that was written, and the stamp is
shown to denote it. -/
namespace Heartbeat.Time
open Decimal

/-! ## Digits -/

theorem charValue_digitChar (n : Nat) : charValue (digitChar n) = n % 10 := by
  have below : n % 10 < 10 := Nat.mod_lt _ (by omega)
  unfold digitChar
  generalize n % 10 = d at *
  interval_cases d <;> rfl

theorem isDigitChar_digitChar (n : Nat) : isDigitChar (digitChar n) = true := by
  have below : n % 10 < 10 := Nat.mod_lt _ (by omega)
  unfold digitChar
  generalize n % 10 = d at *
  interval_cases d <;> rfl

theorem isDigitChar_of_mem_digits {width n : Nat} {c : Char} (member : c ∈ digits width n) :
    isDigitChar c = true := by
  induction width generalizing n with
  | zero => simp [digits] at member
  | succ width ih =>
    simp only [digits, List.mem_append, List.mem_singleton] at member
    rcases member with before | rfl
    · exact ih before
    · exact isDigitChar_digitChar n

/-- Digits of a fixed width spell the number, as far as the width holds it. -/
theorem valueOf_digits (width n : Nat) : valueOf (digits width n) = n % 10 ^ width := by
  induction width generalizing n with
  | zero => simp [digits, valueOf, Nat.mod_one]
  | succ width ih =>
    have step : valueOf (digits (width + 1) n) = valueOf (digits width (n / 10)) * 10 + n % 10 := by
      simp [valueOf, digits, charValue_digitChar]
    rw [step, ih, Nat.pow_succ', Nat.mod_mul]
    omega

private theorem scanNumber_of_window {least width n : Nat} {most : Option Nat} {rest : List Char}
    (enough : least ≤ width) (fits : n < 10 ^ width)
    (window : ((digits width n ++ rest).take
      (most.getD (digits width n ++ rest).length)).takeWhile isDigitChar = digits width n) :
    scanNumber least most (digits width n ++ rest) = .ok (n, rest) := by
  unfold scanNumber
  dsimp only
  rw [window, length_digits, valueOf_digits, Nat.mod_eq_of_lt fits,
    if_neg (by simp; omega), if_neg (by omega)]
  simp

/-- A number that fills the window it is read from. -/
theorem scanNumber_full {least width n : Nat} {rest : List Char} (enough : least ≤ width)
    (fits : n < 10 ^ width) :
    scanNumber least (some width) (digits width n ++ rest) = .ok (n, rest) := by
  apply scanNumber_of_window enough fits
  rw [Option.getD_some, List.take_left' (length_digits width n)]
  rw [← List.append_nil (digits width n), List.takeWhile_append_of_pos]
  · rfl
  · exact fun c member => isDigitChar_of_mem_digits member

/-- A number that ends before its window does, at a character that is no digit. -/
theorem scanNumber_ended {least width n : Nat} {most : Option Nat} {c : Char} {rest : List Char}
    (enough : least ≤ width) (fits : n < 10 ^ width) (ends : isDigitChar c = false)
    (wide : ∀ reach, most = some reach → width < reach) :
    scanNumber least most (digits width n ++ c :: rest) = .ok (n, c :: rest) := by
  apply scanNumber_of_window enough fits
  have reach : width < most.getD (digits width n ++ c :: rest).length := by
    cases most with
    | none => simp
    | some reach => exact wide reach rfl
  obtain ⟨more, window⟩ : ∃ more, (digits width n ++ c :: rest).take
      (most.getD (digits width n ++ c :: rest).length) = digits width n ++ c :: more := by
    refine ⟨rest.take (most.getD (digits width n ++ c :: rest).length - width - 1), ?_⟩
    rw [List.take_append, List.take_of_length_le (by rw [length_digits]; omega), length_digits,
      show most.getD (digits width n ++ c :: rest).length - width =
        (most.getD (digits width n ++ c :: rest).length - width - 1) + 1 by omega]
    rfl
  rw [window, List.takeWhile_append_of_pos fun c member => isDigitChar_of_mem_digits member]
  simp [ends]

/-! ## The parts of a time stamp -/

theorem scanExact_digits {width least most n : Nat} (rest : List Char) (fits : n < 10 ^ width)
    (lower : least ≤ n) (upper : n ≤ most) :
    scanExact width least most (digits width n ++ rest) = .ok (n, rest) := by
  simp [scanExact, scanNumber_full (Nat.le_refl width) fits, within, lower, upper, bind,
    Except.bind, pure, Except.pure]

/-- A fraction is read back from what it is written as: groups of three digits, as few as suffice. -/
theorem scanFraction_render {nano : Nat} {c : Char} (rest : List Char) (fits : nano < 10 ^ 9)
    (ends : isDigitChar c = false) (point : c ≠ '.') :
    scanFraction (Instant.renderFraction nano ++ c :: rest) = .ok (nano, c :: rest) := by
  have group (width n : Nat) (positive : 1 ≤ width) (short : width ≤ 9) (small : n < 10 ^ width)
      (value : n * 10 ^ (9 - width) = nano) :
      scanFraction ('.' :: digits width n ++ c :: rest) = .ok (nano, c :: rest) := by
    have number : scanNumber 1 (some 9) (digits width n ++ c :: rest) = .ok (n, c :: rest) := by
      rcases Nat.lt_or_ge width 9 with inside | full
      · exact scanNumber_ended positive small ends (by simp; omega)
      · obtain rfl : width = 9 := by omega
        exact scanNumber_full positive small
    simp [scanFraction, number, bind, Except.bind, pure, Except.pure, ends, tenTo, value]
  unfold Instant.renderFraction
  split
  · subst nano
    unfold scanFraction
    split
    · rename_i shape
      exact absurd (List.cons.inj shape).1 point
    · rfl
  · split
    · exact group 3 _ (by omega) (by omega) (by omega) (by omega)
    · split
      · exact group 6 _ (by omega) (by omega) (by omega) (by omega)
      · exact group 9 _ (by omega) (by omega) (by omega) (by omega)

/-! ## The stamp of an instant -/

/-- The numbers that an instant is written with. -/
def Instant.stamp (t : Instant) : Stamp :=
  let date := Date.ofEpochDay t.day
  { year := date.year
    month := date.month
    day := date.day
    hour := t.second / 60 / 60
    minute := t.second / 60 % 60
    second := if 1000000000 ≤ t.nano then t.second % 60 + 1 else t.second % 60
    nano := if 1000000000 ≤ t.nano then t.nano - 1000000000 else t.nano }

theorem Instant.renderLocal_eq (t : Instant) : t.renderLocal =
    renderYear t.stamp.year ++ '-' :: (digits 2 t.stamp.month ++ '-' :: (digits 2 t.stamp.day ++
      'T' :: (digits 2 t.stamp.hour ++ ':' :: (digits 2 t.stamp.minute ++
        ':' :: (digits 2 t.stamp.second ++ renderFraction t.stamp.nano))))) := by
  unfold renderLocal stamp
  by_cases leap : 1000000000 ≤ t.nano <;> simp [leap]

/-- The numbers of a stamp are in the ranges that both readers check. -/
theorem Instant.stamp_in_range (t : Instant) :
    (1 ≤ t.stamp.month ∧ t.stamp.month ≤ 12) ∧ (1 ≤ t.stamp.day ∧ t.stamp.day ≤ 31) ∧
      t.stamp.hour ≤ 23 ∧ t.stamp.minute ≤ 59 ∧ t.stamp.second ≤ 60 ∧ t.stamp.nano < 10 ^ 9 := by
  have date := Date.isValid_ofEpochDay t.firstDay_le t.day_le
  have month : daysInMonth (Date.ofEpochDay t.day).year (Date.ofEpochDay t.day).month ≤ 31 := by
    unfold daysInMonth
    split
    · split <;> omega
    · split <;> omega
  simp only [Date.isValid, Bool.and_eq_true, decide_eq_true_eq] at date
  have := t.second_lt
  have := t.nano_lt
  simp only [stamp]
  refine ⟨by omega, by omega, by omega, by omega, ?_, ?_⟩ <;> split <;> omega

/-- The stamp of an instant denotes it, leap seconds included. -/
theorem Instant.toInstant_stamp (t : Instant) : t.stamp.toInstant = .ok t := by
  have date := Date.isValid_ofEpochDay t.firstDay_le t.day_le
  have count := Date.toEpochDay_ofEpochDay t.day
  obtain ⟨day, second, nano, first, last, inDay, inLeap, leap⟩ := t
  simp only at date count
  have parts {clock : Int} {nanos : Nat} (sameClock : clock = second) (sameNano : nanos = nano) :
      ofParts? (day + clock / 86400) (clock % 86400).toNat nanos =
        some ⟨day, second, nano, first, last, inDay, inLeap, leap⟩ := by
    subst sameClock sameNano
    rw [show day + (second : Int) / 86400 = day by omega,
      show ((second : Int) % 86400).toNat = second by omega]
    exact dif_pos ⟨first, last, inDay, inLeap, leap⟩
  unfold Stamp.toInstant stamp
  by_cases late : 1000000000 ≤ nano
  · have sixty : second % 60 + 1 = 60 := by have := leap late; omega
    simp only [late, ↓reduceIte, sixty, date, count]
    rw [if_neg (by simp), parts (by omega) (by omega)]
  · have below : second % 60 ≠ 60 := by omega
    simp only [late, ↓reduceIte, below, date, count]
    rw [if_neg (by simp), parts (by omega) rfl]

/-! ## The strict form -/

/-- The years that the strict form can write: four digits and no sign. -/
def Instant.HasPlainYear (t : Instant) : Prop := 0 ≤ t.stamp.year ∧ t.stamp.year ≤ 9999

instance (t : Instant) : Decidable t.HasPlainYear := inferInstanceAs (Decidable (_ ∧ _))

theorem scanStampStrict_render {t : Instant} (plain : t.HasPlainYear) :
    scanStampStrict (t.renderLocal ++ "+00:00".toList) = .ok (t.stamp, []) := by
  obtain ⟨⟨lowMonth, month⟩, ⟨lowDay, day⟩, hour, minute, second, nano⟩ := t.stamp_in_range
  obtain ⟨positive, short⟩ := plain
  have size : (t.stamp.year.natAbs : Int) = t.stamp.year := by omega
  have year : Instant.renderYear t.stamp.year = digits 4 t.stamp.year.natAbs := by
    simp [Instant.renderYear, positive, short]
  have readYear rest := scanExact_digits (n := t.stamp.year.natAbs) rest
    (show _ < 10 ^ 4 by omega) (Nat.zero_le _) (show _ ≤ 9999 by omega)
  have readMonth rest := scanExact_digits rest (show _ < 10 ^ 2 by omega) lowMonth month
  have readDay rest := scanExact_digits rest (show _ < 10 ^ 2 by omega) lowDay day
  have readHour rest := scanExact_digits rest (show _ < 10 ^ 2 by omega)
    (Nat.zero_le _) hour
  have readMinute rest := scanExact_digits rest (show _ < 10 ^ 2 by omega)
    (Nat.zero_le _) minute
  have readSecond rest := scanExact_digits rest (show _ < 10 ^ 2 by omega)
    (Nat.zero_le _) second
  have readNano := scanFraction_render (c := '+') "00:00".toList nano (by decide) (by decide)
  have readOffset : scanOffset (scanChar ':') ('+' :: "00:00".toList) = .ok (0, []) := by decide
  have offset : "+00:00".toList = '+' :: "00:00".toList := by decide
  rw [Instant.renderLocal_eq, year, offset]
  simp only [List.append_assoc, List.cons_append]
  unfold scanStampStrict
  simp only [readYear, readMonth, readDay, readHour, readMinute, readSecond, readNano, readOffset,
    scanChar, scanSeparator, bind, Except.bind, pure, Except.pure, ↓reduceIte, or_true, true_or,
    size]
  rfl

/-- **Instants are stored without loss**: what the store keeps of an instant whose year has four
digits reads back to the same nanosecond. -/
theorem Instant.readStrict_renderOffset {t : Instant} (plain : t.HasPlainYear) :
    readStrict t.renderOffset = .ok t := by
  unfold readStrict renderOffset
  rw [String.toList_ofList, scanStampStrict_render plain]
  exact t.toInstant_stamp

end Heartbeat.Time
