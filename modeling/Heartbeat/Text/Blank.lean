/-!
# White space

The characters with Unicode's `White_Space` property, and texts without them at either end.
-/
namespace Heartbeat.Text

/-- Whether a character has Unicode's `White_Space` property. -/
def isBlank (c : Char) : Bool :=
  let n := c.toNat
  (0x09 ≤ n && n ≤ 0x0D) || n == 0x20 || n == 0x85 || n == 0xA0 || n == 0x1680 ||
    (0x2000 ≤ n && n ≤ 0x200A) || n == 0x2028 || n == 0x2029 || n == 0x202F || n == 0x205F ||
    n == 0x3000

/-- The characters without the blanks in front. -/
def trimStart (chars : List Char) : List Char := chars.dropWhile isBlank

/-- The characters without the blanks at either end. -/
def trimChars (chars : List Char) : List Char :=
  (trimStart (trimStart chars).reverse).reverse

def trim (text : String) : String := String.ofList (trimChars text.toList)

end Heartbeat.Text
