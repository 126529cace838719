import Heartbeat.Cache.Memory
import Heartbeat.Store.Table
import Heartbeat.Tracker
/-!
# Back-ends

What the processing of signals and the sweeps need from the rest of the daemon, as operations that
each happen at once. Between two of them anything else may happen, so everything that is built of
them is a sequence of phases, one operation each.
-/
namespace Heartbeat

open Time (Instant)

structure Backend (σ : Type) where
  isSeen : String → σ → Bool
  addSeen : String → σ → σ
  /-- Takes the tracker's window and starts the next one. -/
  takeWindow : σ → List String × σ
  cacheGet : String → σ → Except Cache.Fault (Option String) × σ
  cacheSet : String → String → σ → Except Cache.Fault Unit × σ
  find : String → σ → Except Store.Fault (Option Record) × σ
  create : String → String → Status → σ → Except Store.Fault Record × σ
  setStatus : List String → Store.Membership → Status → σ → Except Store.Fault Nat × σ
  readClock : σ → Instant × σ
  /-- Queues a document for the archive under a fresh id; none if the archive is closed. -/
  enqueue : Document → σ → Option String × σ
  /-- Counts a document that was queued. -/
  countDocument : σ → σ

end Heartbeat
