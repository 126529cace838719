/-!
# Numbers of a fixed width

Dates and times are written with leading zeros. `digits width n` has exactly `width` digits, the
last ones of `n`; `valueOf` reads digits back. Powers of two and ten have names of their own.
-/
namespace Heartbeat.Decimal

/-- The digit character of a number below ten. -/
def digitChar (n : Nat) : Char := Char.ofNat (0x30 + n % 10)

/-- The last `width` decimal digits of a number. -/
def digits : Nat → Nat → List Char
  | 0, _ => []
  | width + 1, n => digits width (n / 10) ++ [digitChar n]

def isDigitChar (c : Char) : Bool := 0x30 ≤ c.toNat && c.toNat ≤ 0x39

def charValue (c : Char) : Nat := c.toNat - 0x30

def valueOf (chars : List Char) : Nat := chars.foldl (fun n c => n * 10 + charValue c) 0

def twoTo (n : Nat) : Nat := Nat.pow 2 n

def tenTo (n : Nat) : Nat := Nat.pow 10 n

@[simp]
theorem length_digits (width n : Nat) : (digits width n).length = width := by
  induction width generalizing n with
  | zero => rfl
  | succ width ih => simp [digits, ih]

end Heartbeat.Decimal
