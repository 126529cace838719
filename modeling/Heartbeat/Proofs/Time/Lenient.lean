import Heartbeat.Proofs.Time.Stamp

/-! The lenient reader reads what messages hold, whatever the year. It passes blanks in front of every part
but there are none, so that each part is read where it stands. -/
namespace Heartbeat.Time
open Decimal

theorem isBlank_of_isDigitChar {c : Char} (digit : isDigitChar c = true) : Text.isBlank c = false := by
  simp only [isDigitChar, Bool.and_eq_true, decide_eq_true_eq] at digit
  simp only [Text.isBlank, Bool.or_eq_false_iff, Bool.and_eq_false_iff, decide_eq_false_iff_not,
    beq_eq_false_iff_ne]
  omega

theorem trimStart_cons {c : Char} (solid : Text.isBlank c = false) (rest : List Char) :
    Text.trimStart (c :: rest) = c :: rest := by
  simp [Text.trimStart, solid]

/-- Digits start with a digit. -/
theorem digits_cons {width : Nat} (positive : 0 < width) (n : Nat) :
    ∃ c more, digits width n = c :: more ∧ isDigitChar c = true := by
  have length := length_digits width n
  cases eq : digits width n with
  | nil => rw [eq, List.length_nil] at length; omega
  | cons c more => exact ⟨c, more, rfl, isDigitChar_of_mem_digits (eq ▸ List.mem_cons_self)⟩

theorem trimStart_digits {width : Nat} (positive : 0 < width) (n : Nat) (rest : List Char) :
    Text.trimStart (digits width n ++ rest) = digits width n ++ rest := by
  obtain ⟨c, more, eq, digit⟩ := digits_cons positive n
  rw [eq, List.cons_append, trimStart_cons (isBlank_of_isDigitChar digit)]

theorem scanField_digits {least most n : Nat} (rest : List Char) (fits : n < 10 ^ 2)
    (lower : least ≤ n) (upper : n ≤ most) :
    scanField least most (digits 2 n ++ rest) = .ok (n, rest) := by
  simp [scanField, trimStart_digits (by decide : 0 < 2), scanNumber_full (by decide : 1 ≤ 2) fits, within,
    lower, upper, bind, Except.bind, pure, Except.pure]

theorem scanMark_here {c : Char} (solid : Text.isBlank c = false) (rest : List Char) :
    scanMark c (c :: rest) = .ok rest := by
  simp [scanMark, trimStart_cons solid, scanChar]

theorem ok_bind {a : α} {f : α → Except ε β} : ((.ok a : Except ε α) >>= f) = f a := rfl

theorem scanYear_signed {c : Char} {width n : Nat} (sign : c = '-' ∨ c = '+') (rest : List Char)
    (positive : 1 ≤ width) (fits : n < 10 ^ width) (small : n < 1000000) :
    scanYear (c :: (digits width n ++ '-' :: rest)) =
      .ok (if c = '-' then -(n : Int) else n, '-' :: rest) := by
  have number : scanNumber 1 none (digits width n ++ '-' :: rest) = .ok (n, '-' :: rest) :=
    scanNumber_ended positive fits (by decide) (by rintro _ ⟨⟩)
  have below : -2147483648 ≤ -(n : Int) ∧ -(n : Int) < 2147483648 := by omega
  have above : -2147483648 ≤ (n : Int) ∧ (n : Int) < 2147483648 := by omega
  unfold scanYear
  rcases sign with rfl | rfl
  · rw [trimStart_cons (by decide)]
    split
    · rename_i shape
      cases shape
      rw [number, ok_bind]
      dsimp only
      rw [pure_bind]
      dsimp only
      rw [if_pos below, if_pos rfl]
      rfl
    · rename_i shape
      exact absurd (List.cons.inj shape).1 (by decide)
    · rename_i other _
      exact absurd rfl (other _)
  · rw [trimStart_cons (by decide)]
    split
    · rename_i shape
      exact absurd (List.cons.inj shape).1 (by decide)
    · rename_i shape
      cases shape
      rw [number, ok_bind]
      dsimp only
      rw [pure_bind]
      dsimp only
      rw [if_pos above, if_neg (by decide)]
      rfl
    · rename_i other
      exact absurd rfl (other _)

theorem scanYear_plain {n : Nat} (rest : List Char) (fits : n < 10 ^ 4) :
    scanYear (digits 4 n ++ '-' :: rest) = .ok ((n : Int), '-' :: rest) := by
  have number : scanNumber 1 (some 4) (digits 4 n ++ '-' :: rest) = .ok (n, '-' :: rest) :=
    scanNumber_full (by decide) fits
  have start := trimStart_digits (by decide : 0 < 4) n ('-' :: rest)
  have range : -2147483648 ≤ (n : Int) ∧ (n : Int) < 2147483648 := by omega
  obtain ⟨c, more, eq, digit⟩ := digits_cons (by decide : 0 < 4) n
  rw [eq, List.cons_append] at number start ⊢
  unfold scanYear
  rw [start]
  split
  · rename_i shape
    rw [(List.cons.inj shape).1] at digit
    exact absurd digit (by decide)
  · rename_i shape
    rw [(List.cons.inj shape).1] at digit
    exact absurd digit (by decide)
  · rw [number, ok_bind]
    dsimp only
    rw [pure_bind]
    dsimp only
    rw [if_pos range]
    rfl

/-- A year is read back with or without its sign. -/
theorem scanYear_render {year : Int} (low : Date.firstYear ≤ year) (high : year ≤ Date.lastYear)
    (rest : List Char) :
    scanYear (Instant.renderYear year ++ '-' :: rest) = .ok (year, '-' :: rest) := by
  unfold Date.firstYear at low
  unfold Date.lastYear at high
  unfold Instant.renderYear
  dsimp only
  split
  · rename_i plain
    have size : (year.natAbs : Int) = year := by omega
    rw [scanYear_plain rest (by omega), size]
  · generalize held : (if year.natAbs < 10000 then 4 else if year.natAbs < 100000 then 5 else 6) = width
    have wide : 1 ≤ width ∧ year.natAbs < 10 ^ width := by
      subst held
      split
      · omega
      · split <;> omega
    by_cases negative : year < 0
    · have size : -(year.natAbs : Int) = year := by omega
      rw [if_pos negative, List.cons_append,
        scanYear_signed (.inl rfl) rest wide.1 wide.2 (by omega), if_pos rfl, size]
    · have size : (year.natAbs : Int) = year := by omega
      rw [if_neg negative, List.cons_append,
        scanYear_signed (.inr rfl) rest wide.1 wide.2 (by omega), if_neg (by decide), size]

theorem scanStamp_render (t : Instant) :
    scanStamp (t.renderLocal ++ ['Z']) = .ok (t.stamp, []) := by
  obtain ⟨⟨lowMonth, month⟩, ⟨lowDay, day⟩, hour, minute, second, nano⟩ := t.stamp_in_range
  have readMonth rest := scanField_digits rest (show _ < 10 ^ 2 by omega) lowMonth month
  have readDay rest := scanField_digits rest (show _ < 10 ^ 2 by omega) lowDay day
  have readHour rest := scanField_digits rest (show _ < 10 ^ 2 by omega) (Nat.zero_le _) hour
  have readMinute rest := scanField_digits rest (show _ < 10 ^ 2 by omega) (Nat.zero_le _) minute
  have readSecond rest := scanField_digits rest (show _ < 10 ^ 2 by omega) (Nat.zero_le _) second
  have readNano := scanFraction_render (c := 'Z') [] nano (by decide) (by decide)
  obtain ⟨low, high⟩ := Date.year_of_day_within t.firstDay_le t.day_le
  have readYear rest : scanYear (Instant.renderYear t.stamp.year ++ '-' :: rest) = _ :=
    scanYear_render low high rest
  have dash rest := scanMark_here (c := '-') (by decide) rest
  have point rest := scanMark_here (c := ':') (by decide) rest
  have trimmed : Text.trimStart ['Z'] = ['Z'] := by decide
  have zone : scanZone ['Z'] = .ok (0, []) := by decide
  rw [Instant.renderLocal_eq]
  simp only [List.append_assoc, List.cons_append]
  unfold scanStamp
  simp only [readYear, readMonth, readDay, readHour, readMinute, readSecond, readNano, dash, point,
    trimmed, zone, scanSeparator, ok_bind, or_true, true_or, if_true]
  rfl

/-- **Instants survive messages**: what is written of an instant is read back to the same nanosecond, in
whatever year, leap seconds included. -/
theorem Instant.read_render (t : Instant) : read t.render = .ok t := by
  unfold read render
  rw [String.toList_ofList, scanStamp_render]
  exact t.toInstant_stamp

end Heartbeat.Time
