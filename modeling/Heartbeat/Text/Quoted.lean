import Heartbeat.Text.Unseen
/-!
# Quoted texts in messages

A text inside a message stands in double quotes, and every character of it can be told apart:
quotes and backslashes are escaped, line breaks and tabs have their letters, and what has no
shape is written as its code point in braces.
-/
namespace Heartbeat.Text

/-- The digits of a number in lower-case hexadecimal, without leading zeros. -/
def hexDigits (n : Nat) : String := String.ofList (Nat.toDigits 16 n)

/-- One character as it stands in a quoted text. -/
def quoteChar (c : Char) : String :=
  match c with
  | '"' => "\\\""
  | '\\' => "\\\\"
  | '\n' => "\\n"
  | '\r' => "\\r"
  | '\t' => "\\t"
  | '\x00' => "\\0"
  | _ =>
    let spelled := if c.toNat < 0x80 then c.toNat < 0x20 || c.toNat = 0x7F else isUnseen c
    if spelled then "\\u\x7b" ++ hexDigits c.toNat ++ "\x7d" else c.toString

/-- A text in double quotes, with every character visible. -/
def quote (text : String) : String :=
  "\"" ++ String.join (text.toList.map quoteChar) ++ "\""

end Heartbeat.Text
