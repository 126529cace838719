import Mathlib.Tactic.IntervalCases
import Heartbeat.Json.Number

/-! An integer that was written in decimal is read back, as long as it fits the reader's 64 bits and nothing
follows that could still belong to a number. -/
namespace Heartbeat.Json
open Text (encode)

/-- What may follow a value that was written: nothing, a comma or a bracket that closes. -/
def Ends (rest : Bytes) : Prop := ∀ b ∈ rest.head?, b = 0x2C ∨ b = 0x5D ∨ b = 0x7D

theorem ends_cons {b : UInt8} {rest : Bytes} (here : b = 0x2C ∨ b = 0x5D ∨ b = 0x7D) :
    Ends (b :: rest) := by
  intro other head
  cases head
  exact here

/-- What may stand behind a number for the number to end there: nothing that could belong to it. -/
def Apart (rest : Bytes) : Prop :=
  ∀ b ∈ rest.head?, isDigit b = false ∧ b ≠ 0x2E ∧ b ≠ 0x65 ∧ b ≠ 0x45

theorem Ends.apart {rest : Bytes} (ends : Ends rest) : Apart rest := by
  intro b head
  rcases ends b head with rfl | rfl | rfl <;> decide

/-! ## Digits -/

theorem encode_digitChar {d : Nat} (small : d < 10) :
    encode (String.singleton (Nat.digitChar d)) = [UInt8.ofNat (0x30 + d)] := by
  interval_cases d <;> rfl

theorem isDigit_ofNat {d : Nat} (small : d < 10) : isDigit (UInt8.ofNat (0x30 + d)) = true := by
  interval_cases d <;> rfl

theorem digitValue_ofNat {d : Nat} (small : d < 10) : digitValue (UInt8.ofNat (0x30 + d)) = d := by
  interval_cases d <;> rfl

/-- The last digit of a number of several digits stands behind those of its tenth. -/
theorem encode_repr_of_ge {n : Nat} (large : 10 ≤ n) :
    encode n.repr = encode (n / 10).repr ++ [UInt8.ofNat (0x30 + n % 10)] := by
  rw [Nat.repr_of_ge large, Text.encode_append, encode_digitChar (Nat.mod_lt _ (by omega))]

theorem encode_repr_of_lt {n : Nat} (small : n < 10) : encode n.repr = [UInt8.ofNat (0x30 + n)] := by
  rw [Nat.repr_of_lt small, encode_digitChar small]

theorem isDigit_of_mem_repr {n : Nat} {b : UInt8} (member : b ∈ encode n.repr) : isDigit b = true := by
  induction n using Nat.strongRecOn with
  | ind n ih =>
    rcases Nat.lt_or_ge n 10 with small | large
    · rw [encode_repr_of_lt small, List.mem_singleton] at member
      rw [member]
      exact isDigit_ofNat small
    · rw [encode_repr_of_ge large, List.mem_append, List.mem_singleton] at member
      rcases member with before | last
      · exact ih (n / 10) (by omega) before
      · rw [last]
        exact isDigit_ofNat (Nat.mod_lt _ (by omega))

/-- A positive number does not start with a zero. -/
theorem encode_repr_head {n : Nat} (positive : n ≠ 0) :
    ∃ d more, encode n.repr = UInt8.ofNat (0x30 + d) :: more ∧ 0 < d ∧ d < 10 := by
  induction n using Nat.strongRecOn with
  | ind n ih =>
    rcases Nat.lt_or_ge n 10 with small | large
    · exact ⟨n, [], encode_repr_of_lt small, Nat.pos_of_ne_zero positive, small⟩
    · obtain ⟨d, more, head, low, high⟩ := ih (n / 10) (by omega) (by omega)
      refine ⟨d, more ++ [UInt8.ofNat (0x30 + n % 10)], ?_, low, high⟩
      rw [encode_repr_of_ge large, head, List.cons_append]

/-! ## Numbers -/

theorem gather_append {significand gathered : Nat} {digits : Bytes}
    (all : gather significand digits = (gathered, 0)) (more : Bytes) :
    gather significand (digits ++ more) = gather gathered more := by
  induction digits generalizing significand with
  | nil =>
    cases all
    rfl
  | cons digit digits ih =>
    simp only [gather, List.cons_append] at all ⊢
    split
    · rename_i fits
      rw [if_pos fits] at all
      exact ih all
    · rename_i full
      rw [if_neg full] at all
      cases all

theorem gather_repr {n : Nat} (fits : n < 18446744073709551616) :
    gather 0 (encode n.repr) = (n, 0) := by
  induction n using Nat.strongRecOn with
  | ind n ih =>
    rcases Nat.lt_or_ge n 10 with small | large
    · rw [encode_repr_of_lt small]
      simp only [gather, digitValue_ofNat small, Nat.zero_mul, Nat.zero_add, if_pos fits]
    · have before := ih (n / 10) (by omega) (by omega)
      have whole : n / 10 * 10 + n % 10 = n := by omega
      rw [encode_repr_of_ge large, gather_append before]
      simp only [gather, digitValue_ofNat (Nat.mod_lt n (by omega : 0 < 10)), whole, if_pos fits]

theorem Apart.not_isDigit {rest : Bytes} (apart : Apart rest) : ∀ b ∈ rest.head?, isDigit b = false :=
  fun b head => (apart b head).1

theorem not_isDigit_head {rest : Bytes} (solid : ∀ b ∈ rest.head?, isDigit b = false) :
    (rest.head?.map isDigit).getD false = false := by
  cases rest with
  | nil => rfl
  | cons b rest => exact solid b rfl

/-- Digits are read up to the first byte that is none. -/
theorem window_of_digits {digits rest : Bytes} (all : ∀ b ∈ digits, isDigit b = true)
    (solid : ∀ b ∈ rest.head?, isDigit b = false) :
    (digits ++ rest).takeWhile isDigit = digits ∧ (digits ++ rest).dropWhile isDigit = rest := by
  rw [List.takeWhile_append_of_pos all, List.dropWhile_append_of_pos all]
  cases rest with
  | nil => simp
  | cons b rest => simp [solid b rfl]

theorem unsigned_repr (negative : Bool) {n : Nat} {rest : Bytes} (fits : n < 18446744073709551616)
    (apart : Apart rest) :
    unsigned negative (encode n.repr ++ rest) = afterDigits negative n 0 rest := by
  by_cases zero : n = 0
  · subst zero
    show unsigned negative (0x30 :: rest) = _
    simp only [unsigned, if_true, not_isDigit_head apart.not_isDigit, Bool.false_eq_true, if_false]
  · obtain ⟨d, more, head, low, high⟩ := encode_repr_head zero
    obtain ⟨digits, after⟩ :=
      window_of_digits (fun b member => isDigit_of_mem_repr (n := n) member) apart.not_isDigit
    have noZero : UInt8.ofNat (0x30 + d) ≠ 0x30 := by interval_cases d <;> decide
    have gathered := gather_repr fits
    rw [head] at digits after gathered ⊢
    simp only [List.cons_append] at digits after ⊢
    simp only [unsigned, noZero, if_false, isDigit_ofNat high, if_true, digits, after, gathered]

theorem afterDigits_apart {negative : Bool} {n : Nat} {rest : Bytes} (apart : Apart rest)
    (fits : negative = true → n ≠ 0 ∧ n ≤ 9223372036854775808) :
    afterDigits negative n 0 rest = .ok (.integer (if negative then -(n : Int) else n), rest) := by
  unfold afterDigits
  split
  · exact absurd (apart _ rfl) (by decide)
  · exact absurd (apart _ rfl) (by decide)
  · exact absurd (apart _ rfl) (by decide)
  · cases negative with
    | false => simp
    | true => simp [fits rfl]

theorem number?_of_digit {b : UInt8} (digit : isDigit b = true) (rest : Bytes) :
    number? (b :: rest) = some (unsigned false (b :: rest)) := by
  unfold number?
  split
  · rename_i text eq
    cases eq
    exact absurd digit (by decide)
  · rename_i eq
    cases eq
    rw [if_pos digit]
  · rename_i eq
    cases eq

theorem encode_repr_cons (n : Nat) : ∃ b more, encode n.repr = b :: more ∧ isDigit b = true := by
  by_cases zero : n = 0
  · subst zero
    exact ⟨0x30, [], rfl, rfl⟩
  · obtain ⟨d, more, head, -, high⟩ := encode_repr_head zero
    exact ⟨_, more, head, isDigit_ofNat high⟩

/-- **Integers survive being written in decimal.** -/
theorem number?_toString {n : Int} {rest : Bytes} (low : -9223372036854775808 ≤ n)
    (high : n < 18446744073709551616) (apart : Apart rest) :
    number? (encode (toString n) ++ rest) = some (.ok (.integer n, rest)) := by
  rw [Int.toString_eq_repr, Int.repr_eq_if]
  split
  · rename_i positive
    have fits : n.toNat < 18446744073709551616 := by omega
    have read := (unsigned_repr false fits apart).trans (afterDigits_apart apart (by rintro ⟨⟩))
    have whole : (n.toNat : Int) = n := Int.toNat_of_nonneg positive
    obtain ⟨b, more, head, digit⟩ := encode_repr_cons n.toNat
    rw [head, List.cons_append] at read ⊢
    rw [number?_of_digit digit, read, if_neg (by simp), whole]
  · rename_i negative
    have fits : (-n).toNat < 18446744073709551616 := by omega
    have read := (unsigned_repr true fits apart).trans
      (afterDigits_apart apart fun _ => by omega)
    have whole : -((-n).toNat : Int) = n := by omega
    rw [Text.encode_append]
    show some (unsigned true (encode (-n).toNat.repr ++ rest)) = _
    rw [read, if_pos rfl, whole]

end Heartbeat.Json
