/-!
# The steady clock

Timers are set on a clock that is never put back. It counts whole seconds from some moment on, in 64 bits
with a sign, and the nanoseconds of the second. What lies behind its last second is no moment, so a timer
that would have to go off there cannot be set.
-/
namespace Heartbeat.Time

structure Steady where
  seconds : Int64
  /-- Nanoseconds from the second. -/
  nanos : Fin 1000000000
  deriving DecidableEq, Repr

namespace Steady

/-- The moment so many whole seconds later. -/
def afterSeconds? (t : Steady) (n : Nat) : Option Steady :=
  if t.seconds.toInt + n ≤ Int64.maxValue.toInt then some { t with seconds := .ofInt (t.seconds.toInt + n) }
  else none

/-- The moment less than a second later: its nanoseconds may carry. -/
def afterNanos? (t : Steady) (n : Fin 1000000000) : Option Steady :=
  if fits : t.nanos.val + n.val < 1000000000 then some { t with nanos := ⟨t.nanos.val + n.val, fits⟩ }
  else afterSeconds? { t with nanos := ⟨t.nanos.val + n.val - 1000000000, by omega⟩ } 1

/-- The moment so many milliseconds later: first the whole seconds, then the rest. -/
def after? (t : Steady) (millis : Nat) : Option Steady :=
  (t.afterSeconds? (millis / 1000)).bind (·.afterNanos? ⟨millis % 1000 * 1000000, by omega⟩)

/-- When a timer goes off first that is set at a moment: a period later. There is no timer without a
period. -/
def firstTick? (t : Steady) (period : Nat) : Option Steady := if period = 0 then none else t.after? period

end Steady
end Heartbeat.Time
