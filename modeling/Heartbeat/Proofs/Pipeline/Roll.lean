import Mathlib.Data.List.Nodup
import Mathlib.Data.List.Perm.Subperm
import Heartbeat.Proofs.Pipeline.Steps

/-! Which workers wait for a signal, which were woken, and which have disappeared. No worker is on two of these
lists, and the queue is longer than its capacity by no more than the signals of those that were woken and have
not looked again, or never will. -/
namespace Heartbeat.WorkQueue

variable {q q' : WorkQueue} {workers worker : Nat} {absent : List Nat} {signal : Signal}

/-- How often a worker is on the lists of a queue, and on that of the workers that have disappeared. -/
def mentions (q : WorkQueue) (absent : List Nat) (worker : Nat) : Nat :=
  q.parked.count worker + q.woken.count worker + absent.count worker

/-- The lists name workers that there are, each of them once at most; and the queue is not longer than they
allow. -/
structure Rolled (workers : Nat) (absent : List Nat) (q : WorkQueue) : Prop where
  placed : ∀ worker, q.mentions absent worker ≤ if worker < workers then 1 else 0
  bounded : q.signals.length ≤ q.capacity + (q.woken.length + absent.length)

/-- The lists are not longer than there are workers. -/
theorem Rolled.listed (rolled : q.Rolled workers absent) : q.woken.length + absent.length ≤ workers := by
  have placed (worker : Nat) : (q.woken ++ absent).count worker ≤ if worker < workers then 1 else 0 := by
    have placed := rolled.placed worker
    unfold mentions at placed
    rw [List.count_append]
    omega
  have distinct : (q.woken ++ absent).Nodup := List.nodup_iff_count_le_one.mpr fun worker =>
    Nat.le_trans (placed worker) (by split <;> omega)
  have known : q.woken ++ absent ⊆ List.range workers := fun worker member => by
    have listed := List.count_pos_iff.mpr member
    have placed := placed worker
    refine List.mem_range.mpr (Nat.lt_of_not_le fun beyond => ?_)
    rw [if_neg (by omega)] at placed
    omega
  have size := (distinct.subperm known).length_le
  rwa [List.length_append, List.length_range] at size

/-- A signal that is offered beyond the capacity wakes a worker. -/
theorem Rolled.offer (rolled : q.Rolled workers absent) (signal : Signal) :
    (q.offer signal).Rolled workers absent := by
  obtain ⟨placed, bounded⟩ := rolled
  have offered := q.offer_offered signal
  generalize q.offer signal = q' at offered ⊢
  cases offered with
  | @wakes worker parked first =>
    refine ⟨fun other => ?_, ?_⟩
    · have placed := placed other
      simp only [mentions, first, List.count_cons, List.count_append, List.count_nil] at placed ⊢
      omega
    · simp only [List.length_append, List.length_singleton]
      omega
  | fits unmanned room =>
    refine ⟨placed, ?_⟩
    simp only [List.length_append, List.length_singleton]
    omega
  | waits => exact ⟨placed, bounded⟩

/-- A worker that has not found anything waits. -/
theorem Rolled.park (rolled : q.Rolled workers absent) (known : worker < workers) (present : worker ∉ absent)
    (empty : q.signals = []) : (q.park worker).Rolled workers absent := by
  unfold WorkQueue.park
  split
  · exact rolled
  · rename_i elsewhere
    refine ⟨fun other => ?_, by simp [empty]⟩
    have placed := rolled.placed other
    simp only [mentions, List.count_append, List.count_erase, List.count_singleton, beq_iff_eq] at placed ⊢
    by_cases same : worker = other
    · subst same
      have unparked := List.count_eq_zero.mpr elsewhere
      have unmissed := List.count_eq_zero.mpr present
      simp only [if_true, if_pos known] at placed ⊢
      omega
    · simp only [if_neg same] at placed ⊢
      omega

/-- A worker that departs goes off the lists of the queue; others may go from one to the other. -/
theorem count_depart (q : WorkQueue) (worker other : Nat) :
    (q.depart worker).parked.count other + (q.depart worker).woken.count other =
      (q.parked.erase worker).count other + (q.woken.erase worker).count other := by
  unfold depart
  dsimp only
  split
  · rw [List.count_append, List.count_nil]
    omega
  · rfl

theorem woken_depart (q : WorkQueue) (worker : Nat) :
    q.woken.length ≤ (q.depart worker).woken.length + 1 := by
  have erased : q.woken.length ≤ (q.woken.erase worker).length + 1 := by
    rw [List.length_erase]
    split <;> omega
  unfold depart
  dsimp only
  split
  · rw [List.length_append]
    omega
  · exact erased

/-- A worker that departs, for good or for now, makes room for one signal at most. -/
theorem Rolled.depart (rolled : q.Rolled workers absent) {absent' : List Nat}
    (placed : ∀ other, other ≠ worker → absent'.count other = absent.count other)
    (here : absent'.count worker ≤ if worker < workers then 1 else 0)
    (same : q'.parked = q.parked ∧ q'.woken = q.woken ∧ q'.capacity = q.capacity)
    (bounded : q'.signals.length ≤ q.capacity + (q.woken.length - 1 + absent'.length)) :
    (q'.depart worker).Rolled workers absent' := by
  obtain ⟨parked, woken, capacity⟩ := same
  refine ⟨fun other => ?_, ?_⟩
  · have before := rolled.placed other
    unfold mentions at before ⊢
    rw [count_depart, parked, woken, List.count_erase, List.count_erase]
    by_cases same : other = worker
    · subst same
      have once : (if other < workers then 1 else 0) ≤ 1 := by split <;> omega
      simp only [beq_self_eq_true, if_true]
      omega
    · rw [placed other same]
      omega
  · have fewer := q'.woken_depart worker
    obtain ⟨_, others, eq⟩ := q'.depart_eq worker
    rw [eq] at fewer ⊢
    rw [woken] at fewer
    simp only at fewer ⊢
    omega

/-- A worker that looks for a signal goes off the lists if it finds one, and waits if it does not. -/
theorem Rolled.ask (rolled : q.Rolled workers absent) (known : worker < workers) (present : worker ∉ absent) :
    (q.ask worker).2.Rolled workers absent := by
  unfold WorkQueue.ask
  split
  · rename_i signal q' taken
    obtain ⟨moved, took, parked, woken⟩ := take_some taken
    refine rolled.depart (fun _ _ => rfl) ?_ ⟨parked, woken, took.capacity⟩ ?_
    · rw [List.count_eq_zero.mpr present]
      exact Nat.zero_le _
    · have bounded := rolled.bounded
      have size := congrArg List.length took.next
      have waiting := congrArg List.length took.waiting
      have one := q.waiting_length
      rw [List.length_append, List.length_cons] at size
      rw [List.length_append] at waiting
      rcases took.room with rfl | room
      · rw [List.length_nil] at size
        omega
      · omega
  · rename_i none
    obtain ⟨empty, -, rfl⟩ := take_none none
    split
    · exact rolled.park known present empty
    · exact rolled

/-- A worker disappears. -/
theorem Rolled.vanish (rolled : q.Rolled workers absent) (known : worker < workers) (present : worker ∉ absent) :
    (q.depart worker).Rolled workers (absent ++ [worker]) := by
  have missed := List.count_eq_zero.mpr present
  refine rolled.depart (fun other apart => ?_) ?_ ⟨rfl, rfl, rfl⟩ ?_
  · rw [List.count_append, List.count_singleton, if_neg (by simpa using Ne.symm apart), Nat.add_zero]
  · have once : (absent ++ [worker]).count worker = 1 := by
      rw [List.count_append, missed, List.count_singleton_self]
    exact Nat.le_of_eq (once.trans (if_pos known).symm)
  · have bounded := rolled.bounded
    rw [List.length_append, List.length_singleton]
    omega

/-- The last worker disappears. -/
theorem Rolled.abandon (rolled : q.Rolled workers absent) (known : worker < workers) (present : worker ∉ absent) :
    q.abandon.Rolled workers (absent ++ [worker]) := by
  refine ⟨fun other => ?_, Nat.zero_le _⟩
  have placed := (rolled.vanish known present).placed other
  simp only [mentions, WorkQueue.abandon, List.count_nil] at placed ⊢
  omega

end Heartbeat.WorkQueue
