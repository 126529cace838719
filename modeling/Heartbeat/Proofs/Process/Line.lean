import Heartbeat.Process
import Heartbeat.Proofs.Resolve.Exits

/-! The processing of a signal, read as a straight line: a mark, a resolution and, if that gave a record, its
delivery to the cache and the archive. The operations that a signal is made of come to an end within their
bound on every way through them, so that nothing that is said of the line misses a signal under way. -/
namespace Heartbeat

variable {σ : Type} {b : Backend σ} {signal : Signal}

/-- A whole mark. -/
def Backend.mark (b : Backend σ) (address : String) (s : σ) : σ :=
  if b.isSeen address s then s else b.addSeen address s

/-- What is done with the record that the address of a signal was resolved to. -/
def deliver (b : Backend σ) (signal : Signal) (resolved : Resolved) (s : σ) :
    Except ProcessFault Processed × σ :=
  let (now, s) := b.readClock s
  let record := ProcessPhase.refresh resolved.record now
  let (_, s) := cacheRecord b record s
  match b.enqueue (Document.ofSignal record signal) s with
  | (some id, s) => (.ok ⟨record, resolved.resolution, id⟩, b.countDocument s)
  | (none, s) => (.error .archiveClosed, s)

namespace ProcessPhase

theorem advance_done (result : Except ProcessFault Processed) (n : Nat) (s : σ) :
    advance b signal n (.done result) s = (.done result, s) := by
  induction n with
  | zero => rfl
  | succ n ih => exact ih

/-- The operations of a resolution are operations of its signal, until it is done. -/
theorem advance_afterResolve {k : Nat} {phase : ResolvePhase} {s s' : σ}
    {result : Except ResolveFault Resolved}
    (ends : ResolvePhase.advance b signal.address k phase s = (.done result, s')) :
    ∃ j ≤ k, ∀ n, advance b signal (n + j) (afterResolve phase) s =
      advance b signal n (afterResolve (.done result)) s' := by
  induction k generalizing phase s with
  | zero =>
    cases ends
    exact ⟨0, Nat.le_refl 0, fun n => rfl⟩
  | succ k ih =>
    obtain ⟨j, bound, later⟩ := ih ends
    cases phase with
    | done found =>
      rw [ResolvePhase.advance_done] at ends
      cases ends
      exact ⟨0, by omega, fun n => rfl⟩
    | _ => exact ⟨j + 1, by omega, fun n => later n⟩

/-- A signal with a record has four operations to go. -/
theorem advance_stamp (resolved : Resolved) (n : Nat) (s : σ) :
    advance b signal (n + 4) (.stamp resolved) s =
      (.done (deliver b signal resolved s).1, (deliver b signal resolved s).2) := by
  rcases queued : b.enqueue (Document.ofSignal (refresh resolved.record (b.readClock s).1) signal)
    (cacheRecord b (refresh resolved.record (b.readClock s).1) (b.readClock s).2).2 with ⟨_ | id, s'⟩
  all_goals simp only [advance, step, deliver, queued, advance_done]

/-- A mark takes one operation or two. -/
theorem advance_start (b : Backend σ) (signal : Signal) (n : Nat) (s : σ) : ∃ j ≤ 1,
    advance b signal (n + 2) .start s =
      advance b signal (n + j) (.resolve .lookUp) (b.mark signal.address s) := by
  by_cases seen : b.isSeen signal.address s
  · exact ⟨1, Nat.le_refl 1, by simp only [advance, start, step, Backend.mark, seen, if_true]⟩
  · exact ⟨0, by omega, by
      simp only [advance, start, step, Backend.mark, seen, Bool.false_eq_true, if_false, Nat.add_zero]⟩

end ProcessPhase

/-- Whatever its way, a signal is marked, resolved and delivered. -/
theorem process_eq (b : Backend σ) (signal : Signal) (s : σ) :
    process b signal s =
      match resolve b signal.address (b.mark signal.address s) with
      | (.error fault, s) => (.error (.resolve fault), s)
      | (.ok resolved, s) => deliver b signal resolved s := by
  obtain ⟨i, marked, start⟩ := ProcessPhase.advance_start b signal 8 s
  obtain ⟨j, bound, ends⟩ :=
    ProcessPhase.advance_afterResolve (advance_resolves b signal.address (b.mark signal.address s))
  have enough : 8 + i = (8 + i - j - 4 + 4) + j := by omega
  have line : ProcessPhase.advance b signal 10 .start s =
      ProcessPhase.advance b signal (8 + i - j - 4 + 4)
        (ProcessPhase.afterResolve (.done (resolve b signal.address (b.mark signal.address s)).1))
        (resolve b signal.address (b.mark signal.address s)).2 := by
    rw [start, ← ends, ← enough]
    rfl
  rw [process, line]
  rcases resolve b signal.address (b.mark signal.address s) with ⟨fault | resolved, s'⟩
  · simp only [ProcessPhase.afterResolve, ProcessPhase.advance_done, ProcessPhase.result?,
      Option.getD_some]
  · simp only [ProcessPhase.afterResolve, ProcessPhase.advance_stamp, ProcessPhase.result?,
      Option.getD_some]

end Heartbeat
