import Heartbeat.Json.Value
/-!
# Writing JSON

No blanks, members in their order, and only what a string cannot hold is escaped: the quote, the
backslash and the characters below U+0020.
-/
namespace Heartbeat.Json

def escapeChar (c : Char) : String :=
  match c with
  | '"' => "\\\""
  | '\\' => "\\\\"
  | '\n' => "\\n"
  | '\r' => "\\r"
  | '\t' => "\\t"
  | '\x08' => "\\b"
  | '\x0c' => "\\f"
  | _ =>
    if c.toNat < 0x20 then
      "\\u00" ++ (if c.toNat < 0x10 then "0" else "") ++ Text.hexDigits c.toNat
    else c.toString

def renderText (text : String) : String :=
  "\"" ++ String.join (text.toList.map escapeChar) ++ "\""

/-- A number: an integer in decimal, another one in as few digits as read back. -/
def Number.render : Number → String
  | .integer value => toString value
  | .double value => value.render .message

mutual

def Value.render : Value → String
  | .null => "null"
  | .boolean true => "true"
  | .boolean false => "false"
  | .number value => value.render
  | .text value => renderText value
  | .list items => "[" ++ ",".intercalate (renderItems items) ++ "]"
  | .object members => "\x7b" ++ ",".intercalate (renderMembers members) ++ "\x7d"

def renderItems : List Value → List String
  | [] => []
  | item :: items => item.render :: renderItems items

def renderMembers : List (String × Value) → List String
  | [] => []
  | (name, value) :: members => (renderText name ++ ":" ++ value.render) :: renderMembers members

end

end Heartbeat.Json
