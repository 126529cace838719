/-!
# Texts as bytes

Payloads, bodies and files arrive as bytes and are read as UTF-8. This module holds the three
ways between the two: `encode` writes a text, `decode?` reads one and refuses bytes that are no
text, and `decodeLossy` always reads, with U+FFFD for what is none. `validLength` says how far
bytes that are refused can be read.
-/
namespace Heartbeat

/-- The bytes of a payload, a body or a file. -/
abbrev Bytes := List UInt8

namespace Text

/-- The UTF-8 bytes of a text. -/
def encode (text : String) : Bytes := text.toByteArray.data.toList

/-- The text that the bytes spell, if they are UTF-8. -/
def decode? (bytes : Bytes) : Option String := String.fromUTF8? ⟨bytes.toArray⟩

/-- What is written reads back. -/
@[simp]
theorem decode?_encode (text : String) : decode? (encode text) = some text := by
  simp only [decode?, encode, Array.toArray_toList, String.fromUTF8?]
  exact dif_pos text.isValidUTF8

@[simp]
theorem encode_append (a b : String) : encode (a ++ b) = encode a ++ encode b := by
  simp [encode]

@[simp]
theorem encode_empty : encode "" = [] := rfl

/-- Whether a byte may stand second in a character that starts with `lead`: the bounds rule out
overlong forms, surrogates and numbers above U+10FFFF. -/
def secondFits (lead second : UInt8) : Bool :=
  if lead = 0xE0 then 0xA0 ≤ second && second ≤ 0xBF
  else if lead = 0xED then 0x80 ≤ second && second ≤ 0x9F
  else if lead = 0xF0 then 0x90 ≤ second && second ≤ 0xBF
  else if lead = 0xF4 then 0x80 ≤ second && second ≤ 0x8F
  else 0x80 ≤ second && second ≤ 0xBF

/-- How many bytes a character with this first byte has; 0 if no character starts so. -/
def sequenceLength (lead : UInt8) : Nat :=
  if lead < 0x80 then 1
  else if 0xC2 ≤ lead && lead ≤ 0xDF then 2
  else if 0xE0 ≤ lead && lead ≤ 0xEF then 3
  else if 0xF0 ≤ lead && lead ≤ 0xF4 then 4
  else 0

/-- How many bytes after `lead` belong to the character it starts, as far as they fit. -/
def tailLength (lead : UInt8) (rest : Bytes) : Nat :=
  match sequenceLength lead, rest with
  | 0, _ | 1, _ | _, [] => 0
  | length, second :: more =>
    if secondFits lead second then
      1 + ((more.take (length - 2)).takeWhile fun b => 0x80 ≤ b && b ≤ 0xBF).length
    else 0

/-- How many bytes at the front are whole characters. The first number bounds the characters. -/
def validFrom : Nat → Bytes → Nat
  | 0, _ | _, [] => 0
  | fuel + 1, lead :: rest =>
    let size := tailLength lead rest
    if sequenceLength lead = size + 1 then size + 1 + validFrom fuel (rest.drop size) else 0

/-- How many bytes at the front are whole characters: all of them, if the bytes are UTF-8. -/
def validLength (bytes : Bytes) : Nat := validFrom bytes.length bytes

/-- Reads bytes as UTF-8 and puts U+FFFD for each longest piece that starts no character. The
first number bounds the pieces. -/
def decodePieces : Nat → Bytes → List Char
  | 0, _ | _, [] => []
  | fuel + 1, lead :: rest =>
    let size := tailLength lead rest
    let piece := lead :: rest.take size
    let chars := match decode? piece with
      | some text => text.toList
      | none => ['\uFFFD']
    chars ++ decodePieces fuel (rest.drop size)

/-- The text of the bytes, with U+FFFD where they are not UTF-8. -/
def decodeLossy (bytes : Bytes) : String := String.ofList (decodePieces bytes.length bytes)

end Heartbeat.Text
