import Heartbeat.Tracker
import Mathlib.Tactic.IntervalCases

/-! A tracker that many tasks mark while its windows are taken. A mark looks first and adds in a step of its
own, so a window can be taken in between, of an address that was there as well as of one that was not. What
settles both cases is one fact: an address is in the tracker exactly if some mark has added it since the
last window was taken. -/
namespace Heartbeat.Tracker

/-- An access to a tracker. Each happens at once. -/
inductive Access where
  /-- A mark of the address begins: it looks whether the address is there. -/
  | look (address : String)
  /-- The mark of the given number adds its address, if it has still to do so. -/
  | add (i : Nat)
  /-- The window is taken. -/
  | snapshot
  deriving DecidableEq

/-- A tracker, the marks that have begun and the windows that were taken. -/
structure Shared where
  tracker : Tracker := {}
  /-- In the order in which they began, each with what is left of it. -/
  marks : List (String × MarkPhase) := []
  /-- Oldest first. -/
  windows : List (List String) := []
  deriving DecidableEq

namespace Shared

/-- The tracker after an access. An addition for which no mark is ready changes nothing. -/
def after (s : Shared) : Access → Shared
  | .look address =>
    let (phase, tracker) := MarkPhase.step address .look s.tracker
    { s with tracker, marks := s.marks ++ [(address, phase)] }
  | .add i =>
    match s.marks[i]? with
    | some (address, .add) =>
      let (phase, tracker) := MarkPhase.step address .add s.tracker
      { s with tracker, marks := s.marks.set i (address, phase) }
    | _ => s
  | .snapshot =>
    { s with tracker := s.tracker.take.2, windows := s.windows ++ [s.tracker.take.1] }

variable {s : Shared} {access : Access} {address : String} {phase : MarkPhase} {i : Nat}

/-! ## One access -/

/-- What is in the tracker was there before or has been added, unless the window was taken. -/
theorem mem_after : address ∈ (s.after access).tracker.seen ↔ access ≠ .snapshot ∧
    (address ∈ s.tracker.seen ∨ ∃ i, access = .add i ∧ s.marks[i]? = some (address, .add)) := by
  cases access with
  | look other => simp [after, MarkPhase.step]
  | add i =>
    simp only [after]
    split
    · rename_i other pending
      simp [MarkPhase.step, pending, or_comm, eq_comm]
    · rename_i settled
      have settled : s.marks[i]? ≠ some (address, .add) := settled address
      simp [settled]
  | snapshot => simp [after, take]

/-- A mark was as it is, or it has just begun, or it has just added its address. -/
theorem mark_after (present : (s.after access).marks[i]? = some (address, phase)) :
    s.marks[i]? = some (address, phase) ∨
      (access = .look address ∧ s.marks.length = i ∧
        (phase = .done → address ∈ s.tracker.seen)) ∨
      (access = .add i ∧ s.marks[i]? = some (address, .add)) := by
  cases access with
  | look other =>
    simp only [after, MarkPhase.step, List.getElem?_append] at present
    split at present
    · exact .inl present
    · rename_i beyond
      obtain ⟨here, rfl, rfl⟩ : i - s.marks.length = 0 ∧ _ := by
        simpa [List.getElem?_singleton] using present
      refine .inr (.inl ⟨rfl, by omega, fun found => ?_⟩)
      simpa [contains] using found
  | add j =>
    simp only [after] at present
    split at present
    · rename_i other pending
      by_cases same : j = i
      · subst same
        obtain ⟨inside, -⟩ := List.getElem?_eq_some_iff.mp pending
        simp only [MarkPhase.step, List.getElem?_set_self inside, Option.some.injEq,
          Prod.mk.injEq] at present
        obtain ⟨rfl, -⟩ := present
        exact .inr (.inr ⟨rfl, pending⟩)
      · rw [List.getElem?_set_ne same] at present
        exact .inl present
    · exact .inl present
  | snapshot => exact .inl present

/-- Windows that were taken stay as they are. -/
theorem windows_after (s : Shared) (access : Access) : s.windows <+: (s.after access).windows := by
  cases access with
  | look => exact List.prefix_refl _
  | add =>
    simp only [after]
    split <;> exact List.prefix_refl _
  | snapshot => exact List.prefix_append _ _

/-! ## A run -/

/-- The tracker before the access of the given number, if it is accessed in this order. -/
def state (schedule : Nat → Access) : Nat → Shared
  | 0 => {}
  | n + 1 => (state schedule n).after (schedule n)

variable {schedule : Nat → Access} {n : Nat}

/-- The mark of the given number begins with this access. -/
def Begins (schedule : Nat → Access) (i : Nat) (address : String) (n : Nat) : Prop :=
  schedule n = .look address ∧ (state schedule n).marks.length = i

/-- The mark adds its address with this access. -/
def Adds (schedule : Nat → Access) (i : Nat) (address : String) (n : Nat) : Prop :=
  schedule n = .add i ∧ (state schedule n).marks[i]? = some (address, .add)

/-- The mark is completed before this access. -/
def Completed (schedule : Nat → Access) (i : Nat) (address : String) (n : Nat) : Prop :=
  (state schedule n).marks[i]? = some (address, .done)

/-- The window is taken with this access. -/
def Takes (schedule : Nat → Access) (n : Nat) (window : List String) : Prop :=
  schedule n = .snapshot ∧
    (state schedule (n + 1)).windows = (state schedule n).windows ++ [window]

/-- No window is taken from one access until right before another. -/
def Untaken (schedule : Nat → Access) (first last : Nat) : Prop :=
  ∀ n, first ≤ n → n < last → schedule n ≠ .snapshot

instance (i : Nat) (address : String) : Decidable (Begins schedule i address n) :=
  inferInstanceAs (Decidable (_ ∧ _))

instance (i : Nat) (address : String) : Decidable (Completed schedule i address n) :=
  inferInstanceAs (Decidable (_ = _))

instance (window : List String) : Decidable (Takes schedule n window) :=
  inferInstanceAs (Decidable (_ ∧ _))

theorem Takes.window_eq {window : List String} (takes : Takes schedule n window) :
    window = (state schedule n).tracker.seen := by
  obtain ⟨snapshot, windows⟩ := takes
  simpa [state, after, snapshot, take, eq_comm] using windows

theorem Untaken.shorter {first last sooner : Nat} (untaken : Untaken schedule first last)
    (le : sooner ≤ last) : Untaken schedule first sooner :=
  fun n low high => untaken n low (Nat.lt_of_lt_of_le high le)

/-- **The tracker holds what was added since the last window.** -/
theorem mem_seen_iff : address ∈ (state schedule n).tracker.seen ↔
    ∃ added < n, (∃ i, Adds schedule i address added) ∧ Untaken schedule (added + 1) n := by
  induction n with
  | zero => simp [state]
  | succ n ih =>
    rw [state, mem_after, ih]
    constructor
    · rintro ⟨open_, ⟨added, before, adds, untaken⟩ | ⟨i, adds⟩⟩
      · refine ⟨added, Nat.lt_succ_of_lt before, adds, fun m low high => ?_⟩
        rcases Nat.lt_succ_iff_lt_or_eq.mp high with earlier | rfl
        · exact untaken m low earlier
        · exact open_
      · exact ⟨n, Nat.lt_succ_self n, ⟨i, adds⟩, fun m low high => by omega⟩
    · rintro ⟨added, before, ⟨i, adds⟩, untaken⟩
      rcases Nat.lt_succ_iff_lt_or_eq.mp before with earlier | rfl
      · exact ⟨untaken n earlier (Nat.lt_succ_self n),
          .inl ⟨added, earlier, ⟨i, adds⟩, untaken.shorter (Nat.le_succ n)⟩⟩
      · exact ⟨by rw [adds.1]; exact Access.noConfusion, .inr ⟨i, adds⟩⟩

/-- What is in the tracker stays there until the window is taken. -/
theorem seen_until_taken {later : Nat} (ordered : n ≤ later)
    (present : address ∈ (state schedule n).tracker.seen) (untaken : Untaken schedule n later) :
    address ∈ (state schedule later).tracker.seen := by
  obtain ⟨added, before, adds, quiet⟩ := mem_seen_iff.mp present
  refine mem_seen_iff.mpr ⟨added, Nat.lt_of_lt_of_le before ordered, adds, fun m low high => ?_⟩
  rcases Nat.lt_or_ge m n with earlier | since
  · exact quiet m low earlier
  · exact untaken m since high

/-- What is in the tracker is there later, or in a window that was taken meanwhile. -/
theorem seen_or_taken {later : Nat} (ordered : n ≤ later)
    (present : address ∈ (state schedule n).tracker.seen) :
    address ∈ (state schedule later).tracker.seen ∨
      ∃ taken window, n ≤ taken ∧ taken < later ∧ Takes schedule taken window ∧ address ∈ window := by
  induction later, ordered using Nat.le_induction with
  | base => exact .inl present
  | succ later ordered ih =>
    rcases ih with here | ⟨taken, window, low, high, takes, member⟩
    · by_cases snapshot : schedule later = .snapshot
      · refine .inr ⟨later, (state schedule later).tracker.seen, ordered, Nat.lt_succ_self _,
          ⟨snapshot, ?_⟩, here⟩
        simp [state, after, snapshot, take]
      · rw [state, mem_after]
        exact .inl ⟨snapshot, .inl here⟩
    · exact .inr ⟨taken, window, low, Nat.lt_succ_of_lt high, takes, member⟩

/-- A mark that is there has begun, and once it is completed its address has been in the tracker since. -/
theorem mark_begun (present : (state schedule n).marks[i]? = some (address, phase)) :
    ∃ began < n, Begins schedule i address began ∧ (phase = .done →
      ∃ met, began < met ∧ met ≤ n ∧ address ∈ (state schedule met).tracker.seen) := by
  induction n generalizing phase with
  | zero => simp [state] at present
  | succ n ih =>
    rcases mark_after present with same | ⟨look, number, found⟩ | ⟨add, pending⟩
    · obtain ⟨began, before, begins, met⟩ := ih same
      refine ⟨began, Nat.lt_succ_of_lt before, begins, fun done => ?_⟩
      obtain ⟨met, after, within, seen⟩ := met done
      exact ⟨met, after, Nat.le_succ_of_le within, seen⟩
    · refine ⟨n, Nat.lt_succ_self n, ⟨look, number⟩, fun done => ?_⟩
      refine ⟨n + 1, Nat.lt_succ_self n, Nat.le_refl _, mem_after.mpr ⟨?_, .inl (found done)⟩⟩
      rw [look]
      exact Access.noConfusion
    · obtain ⟨began, before, begins, -⟩ := ih pending
      refine ⟨began, Nat.lt_succ_of_lt before, begins, fun _ => ?_⟩
      refine ⟨n + 1, Nat.lt_succ_of_lt before, Nat.le_refl _, mem_after.mpr ⟨?_, .inr ⟨i, add, pending⟩⟩⟩
      rw [add]
      exact Access.noConfusion

theorem windows_grow {later : Nat} (ordered : n ≤ later) :
    (state schedule n).windows <+: (state schedule later).windows := by
  induction later, ordered using Nat.le_induction with
  | base => exact List.prefix_refl _
  | succ later ordered ih => exact ih.trans (windows_after _ _)

/-- **No mark is lost.** Whatever marks and snapshots there are, and in whatever order their accesses come:
the address of a completed mark is in the tracker, or in a window that was taken since the mark began; and
the next window has it if none was taken while the mark was made. An address in a window comes from a mark
that began before, and if an earlier window has it too, from one that added it in between. A window that
was taken stays as it was. -/
theorem no_mark_is_lost (schedule : Nat → Access) :
    (∀ i address ended, Completed schedule i address ended →
      ∃ began < ended, Begins schedule i address began ∧
        ((state schedule ended).tracker.contains address = true ∨
          ∃ taken window, began < taken ∧ taken < ended ∧ Takes schedule taken window ∧
            address ∈ window) ∧
        ∀ next window, Untaken schedule began ended → ended ≤ next → Untaken schedule ended next →
          Takes schedule next window → address ∈ window) ∧
    (∀ taken window address, Takes schedule taken window → address ∈ window →
      (∃ i, ∃ began < taken, Begins schedule i address began) ∧
      ∀ earlier other, earlier < taken → Takes schedule earlier other → address ∈ other →
        ∃ i added, earlier < added ∧ added < taken ∧ Adds schedule i address added) ∧
    ∀ taken window later, Takes schedule taken window → taken < later →
      (state schedule later).windows[(state schedule taken).windows.length]? = some window := by
  refine ⟨fun i address ended completed => ?_, fun taken window address takes member => ?_,
    fun taken window later takes after => ?_⟩
  · obtain ⟨began, before, begins, met⟩ := mark_begun completed
    obtain ⟨met, after, within, seen⟩ := met rfl
    refine ⟨began, before, begins, ?_, fun next window during ordered since takes => ?_⟩
    · rcases seen_or_taken within seen with here | ⟨taken, window, low, high, takes, member⟩
      · exact .inl (by simpa [contains] using here)
      · exact .inr ⟨taken, window, by omega, high, takes, member⟩
    · rw [takes.window_eq]
      refine seen_until_taken (Nat.le_trans within ordered) seen fun m low high => ?_
      rcases Nat.lt_or_ge m ended with meanwhile | later
      · exact during m (by omega) meanwhile
      · exact since m later high
  · rw [takes.window_eq] at member
    obtain ⟨added, before, ⟨i, adds⟩, untaken⟩ := mem_seen_iff.mp member
    refine ⟨?_, fun earlier other sooner takes' _ => ⟨i, added, ?_, before, adds⟩⟩
    · obtain ⟨began, earlier, begins, -⟩ := mark_begun adds.2
      exact ⟨i, began, Nat.lt_trans earlier before, begins⟩
    · -- the earlier window was taken with another access, and none was taken after the addition
      rcases Nat.lt_trichotomy earlier added with lt | rfl | gt
      · exact lt
      · exact absurd (takes'.1.symm.trans adds.1) Access.noConfusion
      · exact absurd takes'.1 (untaken earlier gt sooner)
  · have grown : (state schedule (taken + 1)).windows <+: (state schedule later).windows :=
      windows_grow (Nat.succ_le_of_lt after)
    rw [takes.2] at grown
    obtain ⟨more, eq⟩ := grown
    rw [← eq, List.append_assoc, List.getElem?_append_right (Nat.le_refl _)]
    simp

/-! ## A window taken in the middle of a mark -/

/-- Two tasks look for a host that is not there. One adds it, the window is taken, and only then the other
adds it; a third finds it there, and the next window is taken. -/
def crossing (n : Nat) : Access :=
  [.look "host", .look "host", .add 0, .snapshot, .add 1, .look "host"][n]?.getD .snapshot

theorem crossing_marks_are_kept :
    Completed crossing 1 "host" 5 ∧ Completed crossing 2 "host" 6 ∧
    Takes crossing 3 ["host"] ∧ Takes crossing 6 ["host"] ∧
    (∃ began < 5, Begins crossing 1 "host" began ∧
      ((state crossing 5).tracker.contains "host" = true ∨ ∃ taken window,
        began < taken ∧ taken < 5 ∧ Takes crossing taken window ∧ "host" ∈ window)) ∧
    (∃ window, Begins crossing 2 "host" 5 ∧ Takes crossing 6 window ∧ "host" ∈ window) ∧
    (∃ i added, 3 < added ∧ added < 6 ∧ Adds crossing i "host" added) ∧
    (state crossing 9).windows[0]? = some ["host"] := by
  have interrupted : Completed crossing 1 "host" 5 := by decide
  have found : Completed crossing 2 "host" 6 := by decide
  have first : Takes crossing 3 ["host"] := by decide
  have second : Takes crossing 6 ["host"] := by decide
  obtain ⟨kept, come, unchanged⟩ := no_mark_is_lost crossing
  obtain ⟨began, before, begins, somewhere, -⟩ := kept 1 "host" 5 interrupted
  obtain ⟨since, sooner, looks, -, next⟩ := kept 2 "host" 6 found
  obtain rfl : since = 5 := by
    interval_cases since <;> first | rfl | exact absurd looks (by decide)
  have member : "host" ∈ ["host"] := by
    refine next 6 ["host"] (fun n low high => ?_) (Nat.le_refl _) (fun n low high => by omega) second
    obtain rfl : n = 5 := by omega
    decide
  exact ⟨interrupted, found, first, second, ⟨began, before, begins, somewhere⟩,
    ⟨["host"], looks, second, member⟩,
    (come 6 ["host"] "host" second member).2 3 ["host"] (by decide) first (.head _),
    unchanged 3 ["host"] 9 first (by decide)⟩

end Shared
end Heartbeat.Tracker
