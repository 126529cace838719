import Mathlib.Tactic.IntervalCases
import Heartbeat.Json.Text
import Heartbeat.Json.Writer

/-! A text that was written as a string is read back as it was. The reader runs over bytes and the writer
over characters, so the runs meet at each character: what is written for it adds its own bytes to those that
were gathered, and leaves the reader where nothing has begun. -/
namespace Heartbeat.Json
open Text (encode)

theorem encode_toString (c : Char) : encode c.toString = String.utf8EncodeChar c := by
  show (String.singleton c).toByteArray.data.toList = _
  simp [String.toByteArray_singleton, List.utf8Encode_singleton]

/-- A byte that stands for itself in a string. -/
def IsPlain (b : UInt8) : Prop := b ≠ 0x22 ∧ b ≠ 0x5C ∧ ¬ b < 0x20

theorem isPlain_ofNat {n : Nat} (byte : n < 0x100) (visible : 0x20 ≤ n) (quote : n ≠ 0x22)
    (backslash : n ≠ 0x5C) : IsPlain (UInt8.ofNat n) := by
  have value : (UInt8.ofNat n).toNat = n := by
    rw [UInt8.toNat_ofNat']
    omega
  refine ⟨?_, ?_, ?_⟩
  · intro eq
    exact quote (value.symm.trans (congrArg UInt8.toNat eq))
  · intro eq
    exact backslash (value.symm.trans (congrArg UInt8.toNat eq))
  · intro below
    have below := UInt8.lt_iff_toNat_lt.mp below
    rw [value] at below
    exact absurd below (Nat.not_lt.mpr visible)

/-- A character that is not escaped is written in bytes that stand for themselves. -/
theorem isPlain_of_mem {c : Char} (visible : 0x20 ≤ c.toNat) (quote : c ≠ '"') (backslash : c ≠ '\\')
    {b : UInt8} (member : b ∈ String.utf8EncodeChar c) : IsPlain b := by
  have noQuote : c.toNat ≠ 0x22 := fun eq => quote (Char.toNat_inj.mp eq)
  have noBackslash : c.toNat ≠ 0x5C := fun eq => backslash (Char.toNat_inj.mp eq)
  change 0x20 ≤ c.val.toNat at visible
  change c.val.toNat ≠ _ at noQuote noBackslash
  unfold String.utf8EncodeChar at member
  generalize c.val.toNat = n at *
  dsimp only at member
  split at member
  · cases List.mem_singleton.mp member
    exact isPlain_ofNat (by omega) visible noQuote noBackslash
  · split at member
    · simp only [List.mem_cons, List.not_mem_nil, or_false] at member
      rcases member with rfl | rfl <;> apply isPlain_ofNat <;> omega
    · split at member
      · simp only [List.mem_cons, List.not_mem_nil, or_false] at member
        rcases member with rfl | rfl | rfl <;> apply isPlain_ofNat <;> omega
      · simp only [List.mem_cons, List.not_mem_nil, or_false] at member
        rcases member with rfl | rfl | rfl | rfl <;> apply isPlain_ofNat <;> omega

theorem scanString_plain {bytes : Bytes} (plain : ∀ b ∈ bytes, IsPlain b) (sofar rest : Bytes) :
    scanString .plain sofar (bytes ++ rest) = scanString .plain (bytes.reverse ++ sofar) rest := by
  induction bytes generalizing sofar with
  | nil => rfl
  | cons b bytes ih =>
    obtain ⟨quote, backslash, control⟩ := plain b (.head _)
    have step : scanString .plain sofar (b :: bytes ++ rest) =
        scanString .plain (b :: sofar) (bytes ++ rest) := by
      simp only [List.cons_append, scanString, quote, backslash, control, if_false]
    rw [step, ih fun other later => plain other (.tail _ later)]
    simp

/-- A control character is read back from its escape. -/
theorem scanString_control {c : Char} (control : c.toNat < 0x20) (sofar rest : Bytes) :
    scanString .plain sofar (encode (escapeChar c) ++ rest) =
      scanString .plain ((String.utf8EncodeChar c).reverse ++ sofar) rest := by
  obtain ⟨n, small, rfl⟩ : ∃ n < 0x20, c = Char.ofNat n :=
    ⟨c.toNat, control, (Char.ofNat_toNat c).symm⟩
  clear control
  interval_cases n <;> rfl

/-- A character that needs no escape stands for itself. -/
theorem escapeChar_plain {c : Char} (visible : ¬ c.toNat < 0x20) (quote : c ≠ '"')
    (backslash : c ≠ '\\') : escapeChar c = c.toString := by
  unfold escapeChar
  split <;> first | exact absurd rfl ‹_› | exact absurd (by decide) visible | skip
  rw [if_neg visible]

/-- A character is read back from what is written for it. -/
theorem scanString_escapeChar (c : Char) (sofar rest : Bytes) :
    scanString .plain sofar (encode (escapeChar c) ++ rest) =
      scanString .plain ((String.utf8EncodeChar c).reverse ++ sofar) rest := by
  by_cases control : c.toNat < 0x20
  · exact scanString_control control sofar rest
  · by_cases quote : c = '"'
    · subst quote
      rfl
    · by_cases backslash : c = '\\'
      · subst backslash
        rfl
      · rw [escapeChar_plain control quote backslash, encode_toString]
        exact scanString_plain
          (fun b member => isPlain_of_mem (Nat.not_lt.mp control) quote backslash member) sofar rest

theorem scanString_escaped (chars : List Char) (sofar rest : Bytes) :
    scanString .plain sofar (encode (String.join (chars.map escapeChar)) ++ 0x22 :: rest) =
      .ok (sofar.reverse ++ encode (String.ofList chars), rest) := by
  induction chars generalizing sofar with
  | nil => simp [scanString]
  | cons c chars ih =>
    rw [List.map_cons, String.join_cons, Text.encode_append, List.append_assoc,
      scanString_escapeChar, ih]
    rw [String.ofList_cons, Text.encode_append, ← encode_toString]
    simp

/-- **A text survives being written as a string.** -/
theorem stringBody_escaped (text : String) (rest : Bytes) :
    stringBody (encode (String.join (text.toList.map escapeChar)) ++ 0x22 :: rest) =
      .ok (text, rest) := by
  have scanned := scanString_escaped text.toList [] rest
  rw [List.reverse_nil, List.nil_append, String.ofList_toList] at scanned
  simp only [stringBody, scanned, bind, Except.bind, Text.decode?_encode]

end Heartbeat.Json
