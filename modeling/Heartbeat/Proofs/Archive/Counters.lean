import Mathlib.Algebra.BigOperators.Group.List.Basic
import Mathlib.Algebra.GroupWithZero.Nat
import Heartbeat.Archive.Index
import Heartbeat.Proofs.Archive.Ledger

/-! The counters of the archive's writer agree with its books: with the bulk calls that were made and with what
became of each. What the index reports never exceeds what it was given. -/
namespace Heartbeat.Archive

/-- What an insertion that comes to an end is for the writer. -/
def BulkReply.ofInsert : Except IndexFault (List Outcome) → BulkReply
  | .ok list => .outcomes list
  | .error _ => .failed

theorem length_outcomesOf (ids : List String) (entries : List Entry) :
    (outcomesOf ids entries).length = ids.length := by
  induction ids generalizing entries with
  | nil => rfl
  | cons id ids ih =>
    cases entries with
    | nil => exact congrArg (· + 1) (ih [])
    | cons entry entries => exact congrArg (· + 1) (ih entries)

/-- Whatever the index answers, there is one outcome for each document, or none at all. -/
theorem Index.insert_fits (index : Index) (send : Http.Outgoing → Http.Outcome) (batch : List Item) :
    (BulkReply.ofInsert (index.insert send batch)).Fits batch.length := by
  cases result : index.insert send batch with
  | error => trivial
  | ok list =>
    simp only [BulkReply.ofInsert, BulkReply.Fits]
    simp only [insert, bind, Except.bind] at result
    split at result
    · cases result
      exact Nat.zero_le _
    · split at result
      · cases result
      · split at result
        · cases result
        · split at result
          · cases result
            exact Nat.le_of_eq ((length_outcomesOf _ _).trans (List.length_map ..))
          · cases result

namespace Ledger

variable {l : Ledger}

/-- The counters, but for the submissions, are what can be read off the bulk calls. -/
structure Tallied (calls : List (List Item × BulkReply)) (underway batches : List (List Item))
    (stats : Stats) : Prop where
  called : batches = calls.map Prod.fst ++ underway
  flushes : stats.flushes = batches.length
  lost : stats.failedFlushes = calls.countP fun call => call.2.isLost
  created : stats.indexed = (calls.map fun call => call.2.created).sum
  missed : stats.failed = (calls.map fun call => call.2.missed call.1.length).sum

section Parts

variable {calls : List (List Item × BulkReply)} {batches : List (List Item)} {stats : Stats}
  {batch : List Item}

theorem Tallied.flush (tallied : Tallied calls [] batches stats) (batch : List Item) :
    Tallied calls [batch] (batches ++ [batch]) { stats with flushes := stats.flushes + 1 } where
  called := by rw [tallied.called, List.append_nil]
  flushes := by rw [tallied.flushes, List.length_append, List.length_singleton]
  lost := tallied.lost
  created := tallied.created
  missed := tallied.missed

theorem Tallied.conclude (tallied : Tallied calls [batch] batches stats) (reply : BulkReply) :
    Tallied (calls ++ [(batch, reply)]) [] batches (Writer.account stats batch.length reply) := by
  rw [Writer.account_eq]
  refine ⟨?_, tallied.flushes, ?_, ?_, ?_⟩
  · simpa using tallied.called
  · simp [tallied.lost, List.countP_append, List.countP_singleton]
  · simp [tallied.created]
  · simp [tallied.missed]

end Parts

/-- The books balance. -/
def Balanced (l : Ledger) : Prop := Tallied l.calls l.writer.underway l.writer.batches l.writer.stats

/-- The books of a task that is not sending: no call is under way, and no move ends one. -/
theorem Balanced.idle (balanced : l.Balanced) {mode : Mode} (idle : l.writer.phase = .idle mode)
    (move : Move) :
    Tallied (l.calls ++ l.writer.ended move) [] l.writer.batches l.writer.stats := by
  have quiet : l.writer.ended move = [] := by
    cases move <;> simp [Writer.ended, idle]
  rw [quiet, List.append_nil]
  simpa only [Balanced, Writer.underway, idle] using balanced

theorem Balanced.move (balanced : l.Balanced) {now : Nat} {move : Move} {w : Writer}
    (moved : l.writer.Moved now move w) :
    Tallied (l.calls ++ l.writer.ended move) w.underway w.batches w.stats := by
  cases moved with
  | rests quiet =>
    rw [quiet, List.append_nil]
    exact balanced
  | buffers idle => simpa only [Writer.underway, idle] using balanced.idle idle move
  | fills idle => exact (balanced.idle idle move).flush _
  | skips idle => simpa only [Writer.underway, idle] using balanced.idle idle .tick
  | ticks idle => exact (balanced.idle idle .tick).flush _
  | notices idle => exact balanced.idle idle .notice
  | finishes idle => exact balanced.idle idle .drain
  | parts idle => exact (balanced.idle idle .drain).flush _
  | stops idle => exact balanced.idle idle .drain
  | @concludes batch _ _ reply sending =>
    have tallied : Tallied l.calls [batch] l.writer.batches l.writer.stats := by
      simpa only [Balanced, Writer.underway, sending] using balanced
    simp only [Writer.ended, sending]
    exact tallied.conclude reply

/-- **Every event leaves the books balanced.** -/
theorem Balanced.after (balanced : l.Balanced) (event : Event) : (l.after event).Balanced := by
  have happened := l.happened event
  generalize l.after event = l' at happened ⊢
  cases happened with
  | refuses => exact balanced
  | queues => exact balanced
  | counts => exact ⟨balanced.called, balanced.flushes, balanced.lost, balanced.created, balanced.missed⟩
  | closes => exact balanced
  | deserts => exact balanced
  | moves moved => exact balanced.move moved

theorem balanced_run (settings : Settings) (time : Nat) (events : List Event) :
    ((start settings time).run events).Balanced :=
  run_induction ⟨rfl, rfl, rfl, rfl, rfl⟩ (fun _ event balanced => balanced.after event) events

/-- What the counters add up to, if no reply has more outcomes than its call has documents. -/
theorem Balanced.total (balanced : l.Balanced) (fits : ∀ call ∈ l.calls, call.2.Fits call.1.length) :
    l.writer.stats.failed = (l.calls.map fun call => call.1.length - call.2.created).sum ∧
      l.writer.stats.indexed + l.writer.stats.failed = (l.calls.map Prod.fst).flatten.length := by
  have missed : ∀ call ∈ l.calls, call.2.missed call.1.length = call.1.length - call.2.created :=
    fun call mem => by
      have every := BulkReply.created_add_missed (fits call mem)
      omega
  have every : ∀ call ∈ l.calls, call.2.created + call.2.missed call.1.length = call.1.length :=
    fun call mem => BulkReply.created_add_missed (fits call mem)
  constructor
  · rw [balanced.missed, List.map_congr_left missed]
  · rw [balanced.created, balanced.missed, ← List.sum_map_add, List.map_congr_left every,
      List.length_flatten, List.map_map]
    rfl

/-- **The counters of the archive account for every document of every bulk call.** However a writer is used
and whatever becomes of its calls: they count the calls, those that failed or were given up, and each
document of a call that is over once, as indexed if the reply says that it was created and else as failed.
The replies of the index never have too many outcomes. -/
theorem counters_account {settings : Settings} {time : Nat} {events : List Event} {l : Ledger}
    (lived : (start settings time).run events = l)
    (fits : ∀ call ∈ l.calls, call.2.Fits call.1.length) :
    l.writer.batches = l.calls.map Prod.fst ++ l.writer.underway ∧
    l.writer.stats.flushes = l.writer.batches.length ∧
    l.writer.stats.failedFlushes = l.calls.countP (fun call => call.2.isLost) ∧
    l.writer.stats.failedFlushes ≤ l.writer.stats.flushes ∧
    l.writer.stats.indexed = (l.calls.map fun call => call.2.created).sum ∧
    l.writer.stats.failed = (l.calls.map fun call => call.1.length - call.2.created).sum ∧
    l.writer.stats.indexed + l.writer.stats.failed = (l.calls.map Prod.fst).flatten.length ∧
    (l.writer.underway = [] → l.writer.stats.indexed + l.writer.stats.failed = l.writer.sent.length) ∧
    ∀ (index : Index) (send : Http.Outgoing → Http.Outcome) (batch : List Item),
      (BulkReply.ofInsert (index.insert send batch)).Fits batch.length := by
  have balanced : l.Balanced := lived ▸ balanced_run settings time events
  obtain ⟨failed, total⟩ := balanced.total fits
  have lost : l.writer.stats.failedFlushes ≤ l.writer.stats.flushes := by
    calc l.writer.stats.failedFlushes
      _ ≤ l.calls.length := balanced.lost ▸ List.countP_le_length
      _ ≤ l.writer.batches.length := by
        rw [balanced.called, List.length_append, List.length_map]
        exact Nat.le_add_right _ _
      _ = l.writer.stats.flushes := balanced.flushes.symm
  refine ⟨balanced.called, balanced.flushes, balanced.lost, lost, balanced.created, failed, total,
    fun quiet => ?_, Index.insert_fits⟩
  rw [total, Writer.sent, balanced.called, quiet, List.append_nil]

/-- In a short life three calls are made and four documents counted; one of them is indexed. -/
theorem counters_account_shortly :
    ((start ⟨2, 10, 5⟩ 0).run shortLife).writer.stats = ⟨1, 1, 3, 3, 2⟩ ∧
    ((start ⟨2, 10, 5⟩ 0).run shortLife).writer.sent.length = 4 := by
  obtain ⟨-, -, -, -, -, -, -, settled, -⟩ :=
    counters_account (l := (start ⟨2, 10, 5⟩ 0).run shortLife) rfl (by decide +kernel)
  have stats : ((start ⟨2, 10, 5⟩ 0).run shortLife).writer.stats = ⟨1, 1, 3, 3, 2⟩ := by decide +kernel
  have quiet : ((start ⟨2, 10, 5⟩ 0).run shortLife).writer.underway = [] := by decide +kernel
  refine ⟨stats, (settled quiet).symm.trans ?_⟩
  simp only [stats]

end Ledger
end Heartbeat.Archive
