/-!
# The cache in memory

Entries of one daemon. All live equally long after they were last written; times are milliseconds on
the cache's own clock.
-/
namespace Heartbeat.Cache

/-- Why the cache did not do what it was asked. -/
inductive Fault where
  | connection
  | backend
  | serialization
  deriving DecidableEq, Repr

structure Entry where
  value : String
  writtenAt : Nat
  deriving DecidableEq, Repr

structure Memory where
  ttl : Nat
  /-- The newest entry of a key comes first. -/
  entries : List (String × Entry) := []
  deriving DecidableEq, Repr

namespace Memory

/-- The value under a key at a time, unless its life is over. -/
def get? (c : Memory) (now : Nat) (key : String) : Option String :=
  match c.entries.lookup key with
  | some entry => if now < entry.writtenAt + c.ttl then some entry.value else none
  | none => none

/-- Writes a value under a key; its life starts anew. -/
def set (c : Memory) (now : Nat) (key value : String) : Memory :=
  { c with entries := (key, ⟨value, now⟩) :: c.entries.filter (·.1 != key) }

theorem lookup_set_self (c : Memory) (now : Nat) (key value : String) :
    (c.set now key value).entries.lookup key = some ⟨value, now⟩ := List.lookup_cons_self

/-- A write leaves other keys alone. -/
theorem lookup_set_ne {key other : String} (c : Memory) (now : Nat) (value : String)
    (ne : other ≠ key) : (c.set now key value).entries.lookup other = c.entries.lookup other := by
  have apart : (other == key) = false := by simp [ne]
  simp only [set, List.lookup_cons, apart]
  induction c.entries with
  | nil => rfl
  | cons entry rest ih =>
    obtain ⟨name, held⟩ := entry
    by_cases same : name = key
    · subst same
      simp [List.lookup_cons, apart, ih]
    · simp [List.lookup_cons, same, ih]

end Memory
end Heartbeat.Cache
