/-!
# The liveness tracker

The tracker holds the addresses seen in the current window. A mark has two atomic steps, a look
and, only if the address is not there, an insertion; taking the window is one step and starts the
next one empty. Windows are kept in the order of their addresses, each once.
-/
namespace Heartbeat

/-- The addresses seen in the current window. -/
structure Tracker where
  /-- In ascending order, each once. -/
  seen : List String := []
  deriving DecidableEq, Repr

namespace Tracker

/-- Puts an address into its place unless it is there. -/
def insertSorted (address : String) : List String → List String
  | [] => [address]
  | other :: rest =>
    if address = other then other :: rest
    else if address < other then address :: other :: rest
    else other :: insertSorted address rest

@[simp]
theorem mem_insertSorted {a address : String} {window : List String} :
    a ∈ insertSorted address window ↔ a = address ∨ a ∈ window := by
  induction window with
  | nil => simp [insertSorted]
  | cons other rest ih => grind [insertSorted]

def contains (t : Tracker) (address : String) : Bool := t.seen.contains address

def size (t : Tracker) : Nat := t.seen.length

/-- The second step of a mark. -/
def insert (t : Tracker) (address : String) : Tracker := ⟨insertSorted address t.seen⟩

/-- A whole mark, with nothing in between. -/
def mark (t : Tracker) (address : String) : Tracker :=
  if t.contains address then t else t.insert address

/-- The window, and the tracker that starts the next one. -/
def take (t : Tracker) : List String × Tracker := (t.seen, {})

@[simp]
theorem mem_insert {t : Tracker} {a address : String} :
    a ∈ (t.insert address).seen ↔ a = address ∨ a ∈ t.seen := mem_insertSorted

@[simp]
theorem mem_mark {t : Tracker} {a address : String} :
    a ∈ (t.mark address).seen ↔ a = address ∨ a ∈ t.seen := by
  unfold mark contains
  split
  · simp_all
  · simp

/-- Where a mark stands: a mark that found its address is done at once. -/
inductive MarkPhase where
  | look
  | add
  | done
  deriving DecidableEq, Repr

/-- One atomic step of a mark. -/
def MarkPhase.step (address : String) : MarkPhase → Tracker → MarkPhase × Tracker
  | .look, t => (if t.contains address then .done else .add, t)
  | .add, t => (.done, t.insert address)
  | .done, t => (.done, t)

end Tracker
end Heartbeat
