import Mathlib.Data.Fintype.Basic
import Heartbeat.Json.Skip
import Heartbeat.Proofs.Json.Spelling

/-! All the ways to spell a text as a string. Each character can stand for itself or be escaped, as one code
unit or as a pair of them, and some have an escape of their own. A text is read from every spelling of it;
a string that is skipped may also have halves of pairs that stand alone, which spell no text. -/
namespace Heartbeat.Json
open Text (encode)

/-- A hexadecimal digit, in one of its two cases. -/
structure HexDigit where
  value : Fin 16
  capital : Bool
  deriving DecidableEq

def HexDigit.byte (d : HexDigit) : UInt8 :=
  UInt8.ofNat (if d.value.val < 10 then 0x30 + d.value
    else (if d.capital then 0x41 else 0x61) + (d.value.val - 10))

/-- A code unit of UTF-16, digit by digit. -/
structure CodeUnit where
  first : HexDigit
  second : HexDigit
  third : HexDigit
  fourth : HexDigit
  deriving DecidableEq

namespace CodeUnit

def bytes (u : CodeUnit) : Bytes := [u.first.byte, u.second.byte, u.third.byte, u.fourth.byte]

def value (u : CodeUnit) : Nat :=
  ((u.first.value * 16 + u.second.value.val) * 16 + u.third.value) * 16 + u.fourth.value

/-- The first half of a pair. -/
def isHigh (u : CodeUnit) : Bool := 0xD800 ≤ u.value && u.value ≤ 0xDBFF

/-- The second half of a pair. -/
def isLow (u : CodeUnit) : Bool := 0xDC00 ≤ u.value && u.value ≤ 0xDFFF

/-- The character of a pair. -/
def paired (high low : CodeUnit) : Char :=
  Char.ofNat (0x10000 + (high.value - 0xD800) * 0x400 + (low.value - 0xDC00))

end CodeUnit

/-- The escapes of one letter. -/
inductive ShortEscape where
  | quote
  | backslash
  | slash
  | backspace
  | formFeed
  | newline
  | carriageReturn
  | tab
  deriving DecidableEq

def ShortEscape.letter : ShortEscape → UInt8
  | .quote => 0x22
  | .backslash => 0x5C
  | .slash => 0x2F
  | .backspace => 0x62
  | .formFeed => 0x66
  | .newline => 0x6E
  | .carriageReturn => 0x72
  | .tab => 0x74

def ShortEscape.char : ShortEscape → Char
  | .quote => '"'
  | .backslash => '\\'
  | .slash => '/'
  | .backspace => '\x08'
  | .formFeed => '\x0c'
  | .newline => '\n'
  | .carriageReturn => '\r'
  | .tab => '\t'

/-- The character can stand for itself in a string. -/
def isLiteral (c : Char) : Bool := 0x20 ≤ c.toNat && c != '"' && c != '\\'

/-- What can stand in a string. -/
inductive Piece where
  | plain (c : Char) (literal : isLiteral c = true)
  | short (escape : ShortEscape)
  | unit (u : CodeUnit)
  deriving DecidableEq

def Piece.bytes : Piece → Bytes
  | .plain c .. => String.utf8EncodeChar c
  | .short escape => [0x5C, escape.letter]
  | .unit u => 0x5C :: 0x75 :: u.bytes

/-- The characters that pieces spell, unless half of a pair stands alone. -/
def spelled? : List Piece → Option (List Char)
  | [] => some []
  | .plain c .. :: more => (spelled? more).map (c :: ·)
  | .short escape :: more => (spelled? more).map (escape.char :: ·)
  | .unit u :: more =>
    if u.isLow then none
    else if u.isHigh then
      match more with
      | .unit low :: more => if low.isLow then (spelled? more).map (u.paired low :: ·) else none
      | _ => none
    else (spelled? more).map (Char.ofNat u.value :: ·)

theorem spelled?_unit (u : CodeUnit) (more : List Piece) :
    spelled? (.unit u :: more) =
      if u.isLow then none
      else if u.isHigh then
        match more with
        | .unit low :: more => if low.isLow then (spelled? more).map (u.paired low :: ·) else none
        | _ => none
      else (spelled? more).map (Char.ofNat u.value :: ·) := by
  cases more with
  | nil => rfl
  | cons piece more => cases piece <;> rfl

/-- A string with its quotes. -/
structure Quoted where
  pieces : List Piece
  deriving DecidableEq

namespace Quoted

/-- What stands behind the first quote, the other quote included. -/
def body (q : Quoted) : Bytes := q.pieces.flatMap Piece.bytes ++ [0x22]

/-- The text of the string. -/
def text? (q : Quoted) : Option String := (spelled? q.pieces).map String.ofList

/-- A string of characters that stand for themselves. -/
def plain (chars : List Char) (literal : chars.all isLiteral = true := by decide) : Quoted :=
  ⟨chars.attach.map fun c => .plain c.1 (List.all_eq_true.mp literal c.1 c.2)⟩

end Quoted

/-! ## Pieces -/

theorem hexValue?_byte (d : HexDigit) : hexValue? d.byte = some d.value.val := by
  obtain ⟨value, capital⟩ := d
  revert value capital
  decide

theorem hexNumber?_bytes (u : CodeUnit) :
    hexNumber? [u.fourth.byte, u.third.byte, u.second.byte, u.first.byte] = some u.value := by
  simp [hexNumber?, hexValue?_byte, CodeUnit.value]

theorem escapeByte?_letter (escape : ShortEscape) :
    escapeByte? escape.letter = some (UInt8.ofNat escape.char.toNat) := by
  cases escape <;> rfl

theorem utf8EncodeChar_char (escape : ShortEscape) :
    String.utf8EncodeChar escape.char = [UInt8.ofNat escape.char.toNat] := by
  cases escape <;> rfl

theorem letter_ne_unit (escape : ShortEscape) : escape.letter ≠ 0x75 := by
  cases escape <;> decide

theorem isPlain_of_isLiteral {c : Char} (literal : isLiteral c = true) :
    ∀ b ∈ String.utf8EncodeChar c, IsPlain b := by
  obtain ⟨⟨visible, quote⟩, backslash⟩ : (0x20 ≤ c.toNat ∧ c ≠ '"') ∧ c ≠ '\\' := by
    simpa [isLiteral] using literal
  exact fun b member => isPlain_of_mem visible quote backslash member

/-- A code unit is read digit by digit, and leads where it leads as a whole. -/
theorem scanString_unit (high : Option Nat) (u : CodeUnit) (sofar rest : Bytes) :
    scanString (.unit high []) sofar (u.bytes ++ rest) =
      match closeUnit high u.value with
      | .error cause => .error (.before cause rest)
      | .ok (more, state) => scanString state (more ++ sofar) rest := by
  cases closed : closeUnit high u.value <;>
    simp [scanString, CodeUnit.bytes, hexNumber?_bytes, closed]

theorem codePoint_eq (n : Nat) : codePoint n = (String.utf8EncodeChar (Char.ofNat n)).reverse := by
  rw [codePoint, encode_toString]

theorem closeUnit_alone {u : CodeUnit} (notHigh : ¬ u.isHigh) (notLow : ¬ u.isLow) :
    closeUnit none u.value = .ok ((String.utf8EncodeChar (Char.ofNat u.value)).reverse, .plain) := by
  simp only [CodeUnit.isHigh, CodeUnit.isLow] at notHigh notLow
  rw [closeUnit, if_neg notLow, if_neg notHigh, codePoint_eq]

theorem closeUnit_low {u : CodeUnit} (low : u.isLow) : closeUnit none u.value = .error .loneSurrogate :=
  if_pos low

theorem closeUnit_high {u : CodeUnit} (high : u.isHigh) (notLow : ¬ u.isLow) :
    closeUnit none u.value = .ok ([], .pairBackslash u.value) := by
  simp only [CodeUnit.isHigh, CodeUnit.isLow] at high notLow
  rw [closeUnit, if_neg notLow, if_pos high]

theorem closeUnit_paired (high : CodeUnit) {low : CodeUnit} (isLow : low.isLow) :
    closeUnit (some high.value) low.value =
      .ok ((String.utf8EncodeChar (high.paired low)).reverse, .plain) := by
  simp only [CodeUnit.isLow] at isLow
  rw [closeUnit, if_pos isLow, codePoint_eq]
  rfl

theorem closeUnit_unpaired (high : Nat) {u : CodeUnit} (notLow : ¬ u.isLow) :
    closeUnit (some high) u.value = .error .loneSurrogate :=
  if_neg notLow

/-- What is left of a string whose last code unit was the first half of a pair, if no code unit follows. -/
theorem scanString_unpaired (high : Nat) (sofar rest : Bytes) {pieces : List Piece}
    (other : ∀ u more, pieces ≠ .unit u :: more) :
    (scanString (.pairBackslash high) sofar
      (pieces.flatMap Piece.bytes ++ 0x22 :: rest)).toOption = none := by
  cases pieces with
  | nil => rfl
  | cons piece pieces =>
    cases piece with
    | unit u => exact absurd rfl (other u pieces)
    | short escape =>
      simp [Piece.bytes, scanString, letter_ne_unit, Except.toOption]
    | plain c literal =>
      obtain ⟨b, bytes, start⟩ := List.exists_cons_of_ne_nil (String.utf8EncodeChar_ne_nil (c := c))
      have plain := isPlain_of_isLiteral literal b (by rw [start]; exact .head _)
      simp [Piece.bytes, start, scanString, plain.2.1, Except.toOption]

/-! ## Strings -/

/-- A character in front of a text. -/
theorem map_char (c : Char) (chars : Option (List Char)) (sofar rest : Bytes) :
    (chars.map fun chars => (((String.utf8EncodeChar c).reverse ++ sofar).reverse ++
        encode (String.ofList chars), rest)) =
      (chars.map (c :: ·)).map fun chars => (sofar.reverse ++ encode (String.ofList chars), rest) := by
  cases chars with
  | none => rfl
  | some chars =>
    have text : encode (String.ofList (c :: chars)) =
        String.utf8EncodeChar c ++ encode (String.ofList chars) := by
      rw [String.ofList_cons, Text.encode_append, ← encode_toString]
      rfl
    simp only [Option.map_some, text, List.reverse_append, List.reverse_reverse, List.append_assoc]

/-- A string is read as the bytes of the text that it spells, and refused if it spells none. -/
theorem scanString_pieces (pieces : List Piece) (sofar rest : Bytes) :
    (scanString .plain sofar (pieces.flatMap Piece.bytes ++ 0x22 :: rest)).toOption =
      (spelled? pieces).map fun chars => (sofar.reverse ++ encode (String.ofList chars), rest) := by
  -- a pair of code units takes two pieces at once, so the induction follows the text and not the list
  induction pieces using spelled?.induct generalizing sofar with
  | case1 => simp [scanString, spelled?, Except.toOption]
  | case2 c literal more ih =>
    rw [spelled?, ← map_char, ← ih, List.flatMap_cons, List.append_assoc, Piece.bytes,
      scanString_plain (isPlain_of_isLiteral literal)]
  | case3 escape more ih =>
    rw [spelled?, ← map_char, ← ih]
    simp [Piece.bytes, scanString, letter_ne_unit, escapeByte?_letter, utf8EncodeChar_char]
  | case4 u more low =>
    rw [spelled?_unit, if_pos low]
    simp [Piece.bytes, scanString, scanString_unit, closeUnit_low low, Except.toOption]
  | case5 u notLow high low more isLow ih =>
    rw [spelled?_unit, if_neg notLow, if_pos high]
    simp only [if_pos isLow]
    rw [← map_char, ← ih]
    simp [Piece.bytes, scanString, scanString_unit, closeUnit_high high notLow, closeUnit_paired u isLow]
  | case6 u notLow high low more isLow =>
    rw [spelled?_unit, if_neg notLow, if_pos high]
    simp only [if_neg isLow]
    simp [Piece.bytes, scanString, scanString_unit, closeUnit_high high notLow,
      closeUnit_unpaired u.value isLow, Except.toOption]
  | case7 u more notLow high other =>
    have nothing : spelled? (.unit u :: more) = none := by
      rw [spelled?_unit, if_neg notLow, if_pos high]
      split
      · exact absurd rfl (other _ _)
      · rfl
    have alone := scanString_unpaired u.value sofar rest other
    rw [nothing, Option.map_none, ← alone]
    simp [Piece.bytes, scanString, scanString_unit, closeUnit_high high notLow]
  | case8 u more notLow notHigh ih =>
    rw [spelled?_unit, if_neg notLow, if_neg notHigh, ← map_char, ← ih]
    simp [Piece.bytes, scanString, scanString_unit, closeUnit_alone notHigh notLow]

namespace Quoted

variable (q : Quoted) (rest : Bytes)

/-- **Every spelling of a text is read as the text**, and a string that spells none is refused. -/
theorem stringBody_body {text : String} {rest' : Bytes} :
    stringBody (q.body ++ rest) = .ok (text, rest') ↔ q.text? = some text ∧ rest' = rest := by
  have scanned := scanString_pieces q.pieces [] rest
  rw [body, List.append_assoc, List.singleton_append]
  generalize q.pieces.flatMap Piece.bytes ++ 0x22 :: rest = spelled at scanned ⊢
  cases found : scanString .plain [] spelled with
  | error fault =>
    have nothing : spelled? q.pieces = none := by simpa [found, Except.toOption] using scanned.symm
    simp [stringBody, found, bind, Except.bind, text?, nothing]
  | ok result =>
    simp only [found, Except.toOption, List.reverse_nil, List.nil_append] at scanned
    obtain ⟨chars, spells, rfl⟩ := Option.map_eq_some_iff.mp scanned.symm
    simp [stringBody, found, bind, Except.bind, text?, spells, eq_comm]

theorem skipString_plain {bytes : Bytes} (plain : ∀ b ∈ bytes, IsPlain b) :
    skipString .plain (bytes ++ rest) = skipString .plain rest := by
  induction bytes with
  | nil => rfl
  | cons b bytes ih =>
    obtain ⟨quote, backslash, control⟩ := plain b (.head _)
    simp only [List.cons_append, skipString, quote, backslash, control, if_false]
    exact ih fun other later => plain other (.tail _ later)

theorem skipString_piece (piece : Piece) :
    skipString .plain (piece.bytes ++ rest) = skipString .plain rest := by
  cases piece with
  | plain c literal => exact skipString_plain rest (isPlain_of_isLiteral literal)
  | short escape => simp [Piece.bytes, skipString, letter_ne_unit, escapeByte?_letter]
  | unit u => simp [Piece.bytes, CodeUnit.bytes, skipString, hexNumber?_bytes]

/-- A string is skipped whatever it spells, even if half of a pair stands alone in it. -/
theorem skipString_pieces (pieces : List Piece) :
    skipString .plain (pieces.flatMap Piece.bytes ++ 0x22 :: rest) = .ok rest := by
  induction pieces with
  | nil => rfl
  | cons piece pieces ih =>
    rw [List.flatMap_cons, List.append_assoc, skipString_piece, ih]

theorem skipString_body : skipString .plain (q.body ++ rest) = .ok rest := by
  rw [body, List.append_assoc, List.singleton_append, skipString_pieces]

end Quoted
end Heartbeat.Json
