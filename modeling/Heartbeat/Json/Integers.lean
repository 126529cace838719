import Heartbeat.Json.Shape
/-!
# Integers of a fixed width

The shapes of the integer types that messages use. A number that does not fit is refused, not cut.
-/
namespace Heartbeat.Json

def int64? (n : Int) : Option Int64 :=
  if -9223372036854775808 ≤ n ∧ n < 9223372036854775808 then some (Int64.ofInt n) else none

def uint16? (n : Int) : Option UInt16 :=
  if 0 ≤ n ∧ n < 65536 then some (UInt16.ofNat n.toNat) else none

def uint32? (n : Int) : Option UInt32 :=
  if 0 ≤ n ∧ n < 4294967296 then some (UInt32.ofNat n.toNat) else none

def Shape.int64 : Shape Int64 := .integer "i64" int64?

def Shape.uint16 : Shape UInt16 := .integer "u16" uint16?

def Shape.uint32 : Shape UInt32 := .integer "u32" uint32?

def Value.ofInt64 (n : Int64) : Value := .ofInt n.toInt

end Heartbeat.Json
