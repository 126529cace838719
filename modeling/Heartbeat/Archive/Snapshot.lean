import Heartbeat.Archive.Writer
/-!
# Looking at the counters

A look at the archive's counters reads them one at a time, in their order, and each read is a step of
its own: the writer and those who submit may take steps in between. A look with nothing in between
gives the counters as they are.
-/
namespace Heartbeat.Archive

inductive Counter where
  | submitted
  | indexed
  | failed
  | flushes
  | failedFlushes
  deriving DecidableEq, Repr

namespace Counter

/-- The counters in the order in which they are read. -/
def all : List Counter := [submitted, indexed, failed, flushes, failedFlushes]

def get (s : Stats) : Counter → Nat
  | submitted => s.submitted
  | indexed => s.indexed
  | failed => s.failed
  | flushes => s.flushes
  | failedFlushes => s.failedFlushes

def put (n : Nat) (s : Stats) : Counter → Stats
  | submitted => { s with submitted := n }
  | indexed => { s with indexed := n }
  | failed => { s with failed := n }
  | flushes => { s with flushes := n }
  | failedFlushes => { s with failedFlushes := n }

end Counter

/-- A look under way. -/
structure Look where
  ahead : List Counter := Counter.all
  found : Stats := {}
  deriving DecidableEq, Repr

namespace Look

def step (s : Stats) (look : Look) : Look :=
  match look.ahead with
  | [] => look
  | counter :: ahead => { ahead, found := counter.put (counter.get s) look.found }

def isOver (look : Look) : Bool := look.ahead.isEmpty

/-- Reads the counters that are given, one after another. -/
def throughout (contents : List Stats) : Look := contents.foldl (fun look s => look.step s) {}

end Look

/-- A whole look, with nothing in between. -/
def Stats.look (s : Stats) : Stats := (Look.throughout (List.replicate Counter.all.length s)).found

@[simp]
theorem Stats.look_eq (s : Stats) : s.look = s := rfl

end Heartbeat.Archive
