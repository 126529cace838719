import Mathlib.Data.Fintype.Basic
import Mathlib.Tactic.SplitIfs
import Heartbeat.Json.Integers
import Heartbeat.Proofs.Json.Decimal
import Heartbeat.Proofs.Json.Layout

/-! All the ways to spell a number. A number that is read as an integer ends where its digits end, has no
fraction and no exponent, and is the very text that is written for this integer: neither `1.0` nor `1e0` is
read as the integer one, and `-0` is none at all. -/
namespace Heartbeat.Json
open Text (encode)

/-- Digits, one or more. -/
structure Digits where
  first : Fin 10
  more : List (Fin 10)
  deriving DecidableEq

/-- The power of ten behind a number. -/
structure Exponent where
  capital : Bool
  /-- The sign, if there is one: whether it is a minus. -/
  negative : Option Bool
  digits : Digits
  deriving DecidableEq

/-- A number as JSON spells it. -/
structure Numeral where
  negative : Bool := false
  whole : Digits
  fraction : Option Digits := none
  exponent : Option Exponent := none
  noLeadingZero : whole.first = 0 → whole.more = [] := by decide
  deriving DecidableEq

def Digits.text (digits : Digits) : String :=
  String.join ((digits.first :: digits.more).map fun d : Fin 10 => String.singleton d.val.digitChar)

def Exponent.text (exponent : Exponent) : String :=
  (if exponent.capital then "E" else "e") ++
    (match exponent.negative with | some true => "-" | some false => "+" | none => "") ++
    exponent.digits.text

namespace Numeral

/-- What stands behind the whole part. -/
def tail (n : Numeral) : String :=
  (match n.fraction with | some digits => "." ++ digits.text | none => "") ++
    match n.exponent with | some exponent => exponent.text | none => ""

def text (n : Numeral) : String := (if n.negative then "-" else "") ++ n.whole.text ++ n.tail

/-- The digit one by itself. -/
def one : Numeral := { whole := ⟨1, []⟩ }

/-- The number one with a fraction. -/
def onePointZero : Numeral := { whole := ⟨1, []⟩, fraction := some ⟨0, []⟩ }

/-- The least integer of 64 bits. -/
def leastInt64 : Numeral :=
  { negative := true, whole := ⟨9, [2, 2, 3, 3, 7, 2, 0, 3, 6, 8, 5, 4, 7, 7, 5, 8, 0, 8]⟩ }

end Numeral

/-! ## Digits -/

def digitByte (d : Fin 10) : UInt8 := UInt8.ofNat (0x30 + d)

theorem isDigit_digitByte (d : Fin 10) : isDigit (digitByte d) = true := isDigit_ofNat d.isLt

theorem digitValue_digitByte (d : Fin 10) : digitValue (digitByte d) = d := digitValue_ofNat d.isLt

theorem digitByte_eq_zero {d : Fin 10} : digitByte d = 0x30 ↔ d = 0 := by
  revert d
  decide

theorem encode_digits (digits : List (Fin 10)) :
    encode (String.join (digits.map fun d : Fin 10 => String.singleton d.val.digitChar)) =
      digits.map digitByte := by
  induction digits with
  | nil => rfl
  | cons d digits ih =>
    rw [List.map_cons, String.join_cons, Text.encode_append, encode_digitChar d.isLt, ih]
    rfl

theorem Digits.encode_text (digits : Digits) :
    encode digits.text = digitByte digits.first :: digits.more.map digitByte :=
  encode_digits (digits.first :: digits.more)

/-- Digits that all fit are gathered into the number that they are the decimal text of, where something
other than zero stands in front of them. -/
theorem repr_of_gather {front gathered : Nat} (positive : 0 < front) {digits : List (Fin 10)}
    (all : gather front (digits.map digitByte) = (gathered, 0)) :
    gathered.repr =
      front.repr ++ String.join (digits.map fun d : Fin 10 => String.singleton d.val.digitChar) := by
  induction digits generalizing front with
  | nil =>
    cases all
    simp
  | cons d digits ih =>
    simp only [List.map_cons, gather, digitValue_digitByte] at all
    split at all
    · have longer : (front * 10 + d).repr = front.repr ++ String.singleton d.val.digitChar := by
        have back : (front * 10 + d) / 10 = front := by omega
        have last : (front * 10 + d) % 10 = d := by omega
        rw [Nat.repr_of_ge (by omega), back, last]
      rw [ih (by omega) all, longer, List.map_cons, String.join_cons, String.append_assoc]
    · cases all

/-- Digits that all fit are the decimal text of the number that they are gathered into. -/
theorem Digits.text_eq_repr {digits : Digits} (plain : digits.first = 0 → digits.more = []) {k : Nat}
    (all : gather 0 (encode digits.text) = (k, 0)) : digits.text = k.repr := by
  rw [encode_text] at all
  obtain ⟨first, more⟩ := digits
  have small := first.isLt
  have start (rest : Bytes) : gather 0 (digitByte first :: rest) = gather first rest := by
    simp only [gather, digitValue_digitByte, Nat.zero_mul, Nat.zero_add]
    exact if_pos (by omega)
  rw [start] at all
  have alone : (first : Nat).repr = String.singleton first.val.digitChar := Nat.repr_of_lt small
  rw [text, List.map_cons, String.join_cons, ← alone]
  by_cases zero : first = 0
  · cases plain zero
    cases all
    simp
  · have positive : 0 < (first : Nat) := Nat.pos_of_ne_zero fun eq => zero (Fin.ext eq)
    rw [repr_of_gather positive all]

/-! ## What is no integer -/

theorem fromParts_double {negative : Bool} {significand : Nat} {exponent : Int} {text rest : Bytes}
    {number : Number} (read : fromParts negative significand exponent text = .ok (number, rest)) :
    ∃ x, number = .double x := by
  unfold fromParts at read
  split at read
  · cases read
    exact ⟨_, rfl⟩
  · cases read

theorem exponentPart_double {negative : Bool} {significand : Nat} {exponent : Int} {text rest : Bytes}
    {number : Number} (read : exponentPart negative significand exponent text = .ok (number, rest)) :
    ∃ x, number = .double x := by
  unfold exponentPart at read
  dsimp only at read
  split at read
  · cases read
  · split at read
    · split at read
      · exact fromParts_double read
      · split_ifs at read
        cases read
        exact ⟨_, rfl⟩
    · cases read

theorem fractionPart_double {negative : Bool} {significand : Nat} {exponent : Int} {text rest : Bytes}
    {number : Number} (read : fractionPart negative significand exponent text = .ok (number, rest)) :
    ∃ x, number = .double x := by
  unfold fractionPart at read
  dsimp only at read
  split at read
  · cases read
  · split at read
    · exact exponentPart_double read
    · exact exponentPart_double read
    · exact fromParts_double read

/-- A number is an integer only if neither a fraction nor an exponent follows its digits. -/
theorem afterDigits_integer {negative : Bool} {significand dropped : Nat} {text rest : Bytes} {k : Int}
    (read : afterDigits negative significand dropped text = .ok (.integer k, rest)) :
    rest = text ∧ dropped = 0 ∧ (k = if negative then -(significand : Int) else significand) ∧
      (negative = true → significand ≠ 0) ∧ ∀ b ∈ text.head?, b ≠ 0x2E ∧ b ≠ 0x65 ∧ b ≠ 0x45 := by
  unfold afterDigits at read
  split at read
  · obtain ⟨_, ⟨⟩⟩ := fractionPart_double read
  · obtain ⟨_, ⟨⟩⟩ := exponentPart_double read
  · obtain ⟨_, ⟨⟩⟩ := exponentPart_double read
  · rename_i point small capital
    have plain : ∀ b ∈ text.head?, b ≠ 0x2E ∧ b ≠ 0x65 ∧ b ≠ 0x45 := by
      intro b head
      obtain ⟨more, rfl⟩ := List.head?_eq_some_iff.mp head
      refine ⟨?_, ?_, ?_⟩
      · rintro rfl
        exact point more rfl
      · rintro rfl
        exact small more rfl
      · rintro rfl
        exact capital more rfl
    split at read
    · rename_i whole
      split at read
      · rename_i positive
        cases read
        exact ⟨rfl, whole, by simp_all, fun signed => absurd signed positive, plain⟩
      · rename_i signed
        split at read
        · rename_i fits
          cases read
          exact ⟨rfl, whole, by simp_all, fun _ => fits.1, plain⟩
        · obtain ⟨_, ⟨⟩⟩ := fromParts_double read
    · obtain ⟨_, ⟨⟩⟩ := fromParts_double read

/-! ## Numbers -/

namespace Numeral

variable {n : Numeral} {rest : Bytes}

/-- Behind the digits stands a point, the letter of an exponent, or what follows the number. -/
theorem tail_cases (n : Numeral) (rest : Bytes) :
    (n.fraction = none ∧ n.exponent = none ∧ encode n.tail ++ rest = rest) ∨
      ∃ b more, encode n.tail ++ rest = b :: more ∧ (b = 0x2E ∨ b = 0x65 ∨ b = 0x45) := by
  obtain ⟨negative, whole, fraction, exponent, noLeadingZero⟩ := n
  cases fraction with
  | some digits => exact .inr ⟨0x2E, _, by simp only [tail, Text.encode_append]; rfl, .inl rfl⟩
  | none =>
    cases exponent with
    | none => exact .inl ⟨rfl, rfl, rfl⟩
    | some exponent =>
      obtain ⟨capital, sign, digits⟩ := exponent
      cases capital with
      | false =>
        exact .inr ⟨0x65, _, by simp only [tail, Exponent.text, Text.encode_append]; rfl, .inr (.inl rfl)⟩
      | true =>
        exact .inr ⟨0x45, _, by simp only [tail, Exponent.text, Text.encode_append]; rfl, .inr (.inr rfl)⟩

/-- A number starts with its sign or with a digit. -/
theorem encode_text (n : Numeral) (rest : Bytes) :
    (n.negative = true ∧
      encode n.text ++ rest = 0x2D :: (encode n.whole.text ++ (encode n.tail ++ rest))) ∨
    (n.negative = false ∧ encode n.text ++ rest = encode n.whole.text ++ (encode n.tail ++ rest)) := by
  cases sign : n.negative with
  | true =>
    refine .inl ⟨rfl, ?_⟩
    simp only [text, sign, if_true, Text.encode_append, List.append_assoc]
    rfl
  | false =>
    refine .inr ⟨rfl, ?_⟩
    simp only [text, sign, Bool.false_eq_true, if_false, Text.encode_append, List.append_assoc,
      Text.encode_empty, List.nil_append]

theorem not_isDigit_tail (n : Numeral) (apart : Apart rest) :
    ∀ b ∈ (encode n.tail ++ rest).head?, isDigit b = false := by
  rcases n.tail_cases rest with ⟨-, -, same⟩ | ⟨c, more, eq, here⟩
  · rw [same]
    exact apart.not_isDigit
  · intro b head
    rw [eq] at head
    cases head
    rcases here with rfl | rfl | rfl <;> rfl

theorem isDigit_of_mem_whole (digits : Digits) : ∀ b ∈ encode digits.text, isDigit b = true := by
  intro b member
  rw [Digits.encode_text] at member
  obtain ⟨d, -, rfl⟩ := List.mem_map.mp (show b ∈ (digits.first :: digits.more).map digitByte from member)
  exact isDigit_digitByte d

/-- The digits of the whole part are read up to its end. -/
theorem unsigned_whole (n : Numeral) (apart : Apart rest) :
    ∃ significand dropped, gather 0 (encode n.whole.text) = (significand, dropped) ∧
      unsigned n.negative (encode n.whole.text ++ (encode n.tail ++ rest)) =
        afterDigits n.negative significand dropped (encode n.tail ++ rest) := by
  have solid := n.not_isDigit_tail apart
  have window := window_of_digits (isDigit_of_mem_whole n.whole) solid
  generalize encode n.tail ++ rest = behind at *
  refine ⟨_, _, rfl, ?_⟩
  rw [Digits.encode_text] at window ⊢
  by_cases zero : n.whole.first = 0
  · rw [n.noLeadingZero zero, zero]
    show unsigned n.negative (0x30 :: behind) = afterDigits n.negative 0 0 behind
    simp only [unsigned, if_true, not_isDigit_head solid, Bool.false_eq_true, if_false]
  · have positive : digitByte n.whole.first ≠ 0x30 := fun eq => zero (digitByte_eq_zero.mp eq)
    rw [List.cons_append] at window ⊢
    simp only [unsigned, positive, if_false, isDigit_digitByte, if_true, window.1, window.2]

/-- Without fraction and exponent, the text is the one of the integer that the digits and the sign give. -/
theorem text_eq_toString {k : Nat} (noFraction : n.fraction = none) (noExponent : n.exponent = none)
    (all : gather 0 (encode n.whole.text) = (k, 0)) (solid : n.negative = true → k ≠ 0) :
    n.text = toString (if n.negative then -(k : Int) else k) := by
  have digits := Digits.text_eq_repr n.noLeadingZero all
  have bare : n.tail = "" := by simp [tail, noFraction, noExponent]
  rw [text, digits, bare, String.append_empty, Int.toString_eq_repr, Int.repr_eq_if]
  cases sign : n.negative with
  | false => simp
  | true =>
    have positive := solid sign
    rw [if_pos rfl, if_pos rfl, if_neg (by omega), Int.neg_neg, Int.toNat_natCast]

/-- **Integers are spelled in one way.** Every spelling of a number is read as a number or refused; one that
is read as an integer is read up to its end, and is what is written for this integer. -/
theorem number?_text (n : Numeral) (apart : Apart rest) :
    ∃ result, number? (encode n.text ++ rest) = some result ∧
      ∀ k rest', result = .ok (.integer k, rest') →
        rest' = rest ∧ n.fraction = none ∧ n.exponent = none ∧ n.text = toString k := by
  obtain ⟨significand, dropped, gathered, read⟩ := n.unsigned_whole apart
  refine ⟨unsigned n.negative (encode n.whole.text ++ (encode n.tail ++ rest)), ?_, ?_⟩
  · rcases n.encode_text rest with ⟨sign, text⟩ | ⟨sign, text⟩
    · rw [text, sign]
      rfl
    · rw [text, sign, Digits.encode_text, List.cons_append]
      exact number?_of_digit (isDigit_digitByte _) _
  · intro k rest' ok
    rw [read] at ok
    obtain ⟨all, rfl, value, solid, plain⟩ := afterDigits_integer ok
    rcases n.tail_cases rest with ⟨noFraction, noExponent, same⟩ | ⟨b, more, eq, here⟩
    · refine ⟨all.trans same, noFraction, noExponent, ?_⟩
      rw [value, text_eq_toString noFraction noExponent gathered solid]
    · have point := plain b (by rw [eq]; rfl)
      rcases here with rfl | rfl | rfl
      · exact absurd rfl point.1
      · exact absurd rfl point.2.1
      · exact absurd rfl point.2.2

/-- Only the digit one by itself is the text of the integer one. -/
theorem eq_one_of_text (noFraction : n.fraction = none) (noExponent : n.exponent = none)
    (unit : n.text = toString (1 : Int)) : n = one := by
  obtain ⟨negative, ⟨first, more⟩, fraction, exponent, noLeadingZero⟩ := n
  simp only at noFraction noExponent
  subst noFraction noExponent
  have chars : _ = ['1'] := congrArg String.toList unit
  cases negative with
  | true => simp [text] at chars
  | false =>
    have digit : ∀ d : Fin 10, d.val.digitChar = '1' → d = 1 := by decide
    have here : first.val.digitChar = '1' ∧ more = [] := by
      simpa [text, tail, Digits.text, -Nat.digitChar_eq_one, ← List.eq_nil_iff_forall_not_mem] using chars
    cases digit first here.1
    cases here.2
    rfl

theorem skipBlanks_text (n : Numeral) (rest : Bytes) :
    skipBlanks (encode n.text ++ rest) = encode n.text ++ rest := by
  rcases n.encode_text rest with ⟨-, text⟩ | ⟨-, text⟩
  · rw [text]
    rfl
  · rw [text, Digits.encode_text]
    exact skipBlanks_cons (isBlank_of_isDigit (isDigit_digitByte _)) _

/-- Where an integer of a fixed width is wanted, a number is refused or read up to its end. -/
theorem uint32_read (n : Numeral) (depth : Nat) (apart : Apart rest) :
    (∃ fault, Shape.uint32.read depth (encode n.text ++ rest) = .error fault) ∨
      ∃ v, Shape.uint32.read depth (encode n.text ++ rest) = .ok (v, rest) ∧ (v = 1 → n = one) := by
  obtain ⟨result, read, integer⟩ := n.number?_text apart
  simp only [Shape.uint32, Shape.integer, skipBlanks_text, read]
  cases result with
  | error fault => exact .inl ⟨fault, rfl⟩
  | ok found =>
    obtain ⟨number, rest'⟩ := found
    cases number with
    | double x => exact .inl ⟨_, rfl⟩
    | integer k =>
      obtain ⟨rfl, noFraction, noExponent, spelled⟩ := integer k rest' rfl
      by_cases fits : 0 ≤ k ∧ k < 4294967296
      · refine .inr ⟨UInt32.ofNat k.toNat, ?_, fun one => eq_one_of_text noFraction noExponent ?_⟩
        · simp only [uint32?, if_pos fits, bind, Except.bind, pure, Except.pure]
        · have value := congrArg UInt32.toNat one
          rw [UInt32.toNat_ofNat_of_lt' (show k.toNat < 2 ^ 32 by omega)] at value
          change k.toNat = 1 at value
          rw [spelled, show k = 1 by omega]
      · simp only [uint32?, if_neg fits, bind, Except.bind]
        exact .inl ⟨_, rfl⟩

end Numeral
end Heartbeat.Json
