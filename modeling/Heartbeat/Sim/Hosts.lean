import Heartbeat.Message
/-!
# Synthetic hosts

The simulator reports for a pool of hosts that do not exist. Host `n`, counted from one, has an
address under 192.168, with 254 hosts to each third number.
-/
namespace Heartbeat.Sim

def hostAddress (n : UInt32) : String :=
  let index := if n = 0 then 0 else n - 1
  "192.168." ++ toString (index / 254 + 1).toNat ++ "." ++ toString (index % 254 + 1).toNat

def addresses (picks : List UInt32) : List String := picks.map hostAddress

/-- The most addresses that one list can hold: a list has fewer than 2^63 bytes, and a text takes up
24. -/
def largestPick : Nat := 9223372036854775807 / 24

/-- Picks so many hosts, by the numbers that are drawn for them; none if no list can hold their
addresses. -/
def pickHosts? (count : Nat) (draw : Nat → UInt32) : Option (List UInt32) :=
  if count ≤ largestPick then some ((List.range count).map draw) else none

/-- The duration that is reported when hosts report every so many seconds, at most the largest that
can be. -/
def reportedDuration (intervalSecs : UInt64) : Int64 :=
  if intervalSecs.toNat < 9223372036854775808 then Int64.ofInt intervalSecs.toNat else Int64.maxValue

def tickRequests (picks : List UInt32) (intervalSecs : UInt64) : List Request :=
  (addresses picks).map fun ip => ⟨ip, reportedDuration intervalSecs, none⟩

end Heartbeat.Sim
