import Heartbeat.Proofs.Resolve.Race
import Heartbeat.Proofs.Sweep.Exact

/-! Several daemons that sweep one store. The status column is theirs together, but each knows only what it
has heard itself: a sweep takes down whatever is not in its own window, also what another daemon has just
heard of. What holds is what each daemon can promise for itself, in any order of everybody's operations: its
sweeps leave up what it had marked since its last take. -/
namespace Heartbeat
open Store (Table)

/-- Daemons that share a store, each with its own tracker, signals and sweep. -/
structure Fleet where
  table : Option Table
  daemons : Nat → Watch

namespace Fleet

/-- A daemon over the store as the others left it. -/
def sees (f : Fleet) (daemon : Nat) : Watch :=
  { f.daemons daemon with services := (f.daemons daemon).services.atStore f.table }

/-- A daemon is left in another state, and the store as it has it. -/
def leave (f : Fleet) (daemon : Nat) (w : Watch) : Fleet :=
  ⟨w.services.database.table, Function.update f.daemons daemon w⟩

/-- One of the daemons takes a step. -/
inductive Step : Fleet → Fleet → Prop where
  | move {f : Fleet} (daemon : Nat) {w : Watch} (step : (f.sees daemon).Step w) :
      Step f (f.leave daemon w)

/-- The address has a row that is down. -/
def HasDown (f : Fleet) (address : String) : Prop :=
  ∃ t, f.table = some t ∧ ∃ row ∈ t.rows, row.address = address ∧ row.IsDown

/-- A run of so many steps. -/
structure Run (n : Nat) where
  state : Nat → Fleet
  step : ∀ time < n, (state time).Step (state (time + 1))

variable {f : Fleet} {daemon : Nat} {w : Watch}

/-- The daemon that moved sees what it left. -/
theorem sees_leave_self : (f.leave daemon w).sees daemon = w := by
  simp only [sees, leave, Function.update_self]
  rfl

theorem daemons_leave_of_ne {other : Nat} (others : other ≠ daemon) :
    (f.leave daemon w).daemons other = f.daemons other := by
  simp only [leave, Function.update_of_ne others]

end Fleet

namespace Fleet.Run
open Watch (Effect Plain)

variable {n time taken : Nat} {r : Run n} {t t' : Table} {daemon : Nat}

/-- The run as a daemon sees it. In between the others move, so this is a history of states only. -/
def view (r : Run n) (daemon : Nat) : Watch.Run 0 where
  state time := (r.state time).sees daemon
  step time within := absurd within (Nat.not_lt_zero time)

/-- A fleet starts over a table, with nothing under way in any daemon. -/
structure Start (f : Fleet) : Prop where
  stored : ∃ t, f.table = some t
  alone : ∀ daemon, (f.daemons daemon).services.Alone
  uncalled : ∀ daemon, (f.daemons daemon).calls = []
  unswept : ∀ daemon, (f.daemons daemon).sweeping = none

/-- The invariant of a run. -/
structure Sound (r : Run n) (time : Nat) (t : Table) : Prop where
  held : (r.state time).table = some t
  alone : ∀ daemon, ((r.view daemon).state time).services.Alone
  plain : ∀ daemon, ((r.view daemon).state time).Plain
  windowed : ∀ daemon, (r.view daemon).Windowed time

/-- What one step of the fleet is to one of its daemons: its own step, or nothing but rows. -/
theorem view_cases (within : time < n) (daemon : Nat) :
    ((r.view daemon).state time).Step ((r.view daemon).state (time + 1)) ∨
      ((r.view daemon).state (time + 1)) =
        { (r.view daemon).state time with
          services := ((r.view daemon).state time).services.atStore (r.state (time + 1)).table } := by
  have step := r.step time within
  simp only [view]
  generalize r.state (time + 1) = after at step ⊢
  cases step with
  | @move mover w step =>
    by_cases same : daemon = mover
    · subst same
      rw [sees_leave_self]
      exact .inl step
    · refine .inr ?_
      simp only [sees, daemons_leave_of_ne same]
      rfl

/-- A step of the fleet, as the daemon that takes it. -/
theorem mover (r : Run n) (within : time < n) : ∃ daemon,
    ((r.view daemon).state time).Step ((r.view daemon).state (time + 1)) := by
  have step := r.step time within
  simp only [view]
  generalize r.state (time + 1) = after at step ⊢
  cases step with
  | @move daemon w step =>
    refine ⟨daemon, ?_⟩
    rw [sees_leave_self]
    exact step

/-- To each daemon, each step of the fleet has one of the effects of a step of its own. -/
theorem Sound.effect (sound : r.Sound time t) (within : time < n) (daemon : Nat) :
    ((r.view daemon).state (time + 1)).services.Alone ∧
      ((r.view daemon).state (time + 1)).Plain ∧
      ∃ t', Effect ((r.view daemon).state time) ((r.view daemon).state (time + 1)) t t' := by
  rcases view_cases within daemon with step | same
  · obtain ⟨alone, t', -, effect⟩ := step.effect (sound.alone daemon) sound.held
    exact ⟨alone, step.plain (sound.plain daemon), t', effect⟩
  · rw [same]
    exact ⟨sound.alone daemon, sound.plain daemon, t, .work .same rfl fun _ => id⟩

/-- The invariant at the start. -/
theorem Start.sound (start : Start (r.state 0)) : ∃ t, r.Sound 0 t := by
  obtain ⟨t, held⟩ := start.stored
  refine ⟨t, held, start.alone, fun daemon => ?_, fun daemon window writing => ?_⟩
  · have uncalled : ((r.view daemon).state 0).calls = [] := start.uncalled daemon
    simp [Plain, uncalled]
  · have unswept : ((r.view daemon).state 0).sweeping = none := start.unswept daemon
    simp [unswept] at writing

/-- One step keeps the invariant. -/
theorem Sound.next (sound : r.Sound time t) (within : time < n) : ∃ t', r.Sound (time + 1) t' := by
  obtain ⟨daemon, step⟩ := r.mover within
  obtain ⟨-, t', held, -⟩ := step.effect (sound.alone daemon) sound.held
  refine ⟨t', held, fun other => ?_, fun other => ?_, fun other => ?_⟩
  · obtain ⟨alone', -, -⟩ := sound.effect within other
    exact alone'
  · obtain ⟨-, plain, -⟩ := sound.effect within other
    exact plain
  · obtain ⟨-, -, _, effect⟩ := sound.effect within other
    exact (sound.windowed other).next effect

theorem sound (start : Start (r.state 0)) (within : time ≤ n) : ∃ t, r.Sound time t := by
  induction time with
  | zero => exact start.sound
  | succ time ih =>
    obtain ⟨t, sound⟩ := ih (Nat.le_of_lt within)
    exact sound.next within

/-- Between two takes of its own, the tracker of a daemon only grows. -/
theorem seen_grows (start : Start (r.state 0)) {first last : Nat} (ordered : first ≤ last)
    (within : last ≤ n)
    (untaken : ∀ time window, first ≤ time → time < last → ¬ (r.view daemon).Takes time window) :
    ((r.view daemon).state first).services.tracker.seen ⊆
      ((r.view daemon).state last).services.tracker.seen := by
  refine Watch.Run.seen_of_effects ordered (fun time _ high => ?_) untaken
  obtain ⟨t, sound⟩ := sound start (Nat.le_of_lt (high.trans_le within))
  obtain ⟨-, -, t', effect⟩ := sound.effect (high.trans_le within) daemon
  exact ⟨t, t', effect⟩

/-- Whoever completes a mark with a daemon between two of its takes is in the window of the second. -/
theorem mem_of_marks (start : Start (r.state 0)) {address : String} {began ended : Nat}
    (within : taken ≤ n) (before : ended < taken)
    (untaken : ∀ time window, began ≤ time → time < taken → ¬ (r.view daemon).Takes time window)
    (marks : (r.view daemon).Marks address began ended) :
    address ∈ ((r.view daemon).state taken).services.tracker.seen := by
  obtain ⟨ordered, i, signal, mark, phase, rfl, -, marking, after, marked⟩ := marks
  have inside : ended < n := Nat.lt_of_lt_of_le before within
  have seen : signal.address ∈ ((r.view daemon).state (ended + 1)).services.tracker.seen := by
    rcases view_cases inside daemon with step | same
    · obtain ⟨t, sound⟩ := sound start (Nat.le_of_lt inside)
      exact step.seen_of_marked (sound.plain daemon) marking after marked
    · -- a daemon that did not move has not ended the mark
      rw [same] at after
      cases marking.symm.trans after
      exact absurd rfl (marked mark)
  refine seen_grows start before within (fun time window low => ?_) seen
  exact untaken time window (by omega)

/-- **Each daemon speaks for itself.** If a row goes down, it is in the second update of some daemon's sweep,
and the address was not in the tracker of this daemon when the sweep took its window; so no mark of the
address was begun with this daemon after its take before that and completed in time. And such an update takes
down every row outside this window, whatever the trackers of the others hold. -/
theorem rows_fall_outside_own_window (start : Start (r.state 0)) (within : time < n) :
    (∀ address, ¬ HasDown (r.state time) address → HasDown (r.state (time + 1)) address →
      ∃ daemon window taken, (r.view daemon).Commits time window ∧
        (r.view daemon).LastTake time taken window ∧
        address ∉ ((r.state taken).daemons daemon).services.tracker.seen ∧
        ∀ began ended,
          (∀ between other, began ≤ between → between < taken → ¬ (r.view daemon).Takes between other) →
          ended < taken → ¬ (r.view daemon).Marks address began ended) ∧
    ∀ daemon window, (r.view daemon).Commits time window →
      ∀ t', (r.state (time + 1)).table = some t' → ∀ row ∈ t'.rows, row.address ∉ window → row.IsDown := by
  obtain ⟨t, sound⟩ := sound start (Nat.le_of_lt within)
  constructor
  · rintro address fresh ⟨t', held', row, member, rfl, down⟩
    obtain ⟨daemon, step⟩ := r.mover within
    obtain ⟨-, t'', held, effect⟩ := step.effect (sound.alone daemon) sound.held
    cases held'.symm.trans held
    rcases effect.down member down with ⟨old, present, named, low⟩ |
      ⟨window, up, count, sweeping, committed, outside⟩
    · exact absurd ⟨t, sound.held, old, present, named, low⟩ fresh
    · obtain ⟨taken, last⟩ := sound.windowed daemon window (.inr ⟨up, sweeping⟩)
      refine ⟨daemon, window, taken, ⟨up, count, sweeping, committed⟩, last, ?_, ?_⟩
      · exact fun seen => outside (last.window_eq ▸ seen)
      · intro began ended untaken before marks
        refine outside (last.window_eq ▸ mem_of_marks start ?_ before untaken marks)
        exact Nat.le_of_lt (last.before.trans within)
  · rintro daemon window ⟨up, count, sweeping, committed⟩ t' held' row member outside
    rcases view_cases within daemon with step | same
    · obtain ⟨-, t'', held, effect⟩ := step.effect (sound.alone daemon) sound.held
      cases held'.symm.trans held
      cases effect with
      | @markDown other _ _ _ was =>
        obtain rfl : window = other := by simp_all [view]
        obtain ⟨old, -, -, -, status⟩ := Table.row_of_update member
        rwa [if_pos (by simpa [Store.Membership.selects] using outside)] at status
      | work _ same => simp_all [view]
      | take was => simp_all [view]
      | markUp was => simp_all [view]
      | aside _ next => rcases next _ committed with h | h | ⟨_, h⟩ <;> cases h
    · rw [same] at committed
      cases sweeping.symm.trans committed

/-! ## A host that another daemon has heard of -/

/-- Daemons over one server that is up. -/
def quiet : Fleet where
  table := Watch.Run.silent.services.database.table
  daemons _ := Watch.Run.silent

/-- One of the daemons does what it does next. -/
def act (f : Fleet) (daemon : Nat) (change : Watch → Watch) : Fleet :=
  f.leave daemon (change (f.sees daemon))

/-- The first signal of a daemon goes on. -/
def heed (w : Watch) : Watch :=
  match w.calls[0]? with
  | some (signal, phase) => w.work 0 signal phase
  | none => { w with calls := [(⟨"host", 0, 0⟩, .start)] }

/-- First the second daemon gets a signal from the server and marks it, then the first daemon sweeps. -/
def crossing : Nat → Fleet
  | 0 => quiet
  | time + 1 =>
    if time < 3 then act (crossing time) 1 heed else act (crossing time) 0 Watch.Run.proceed

theorem step_heed (w : Watch) : w.Step (heed w) := by
  unfold heed
  split
  · rename_i signal phase found
    exact .work found
  · rename_i fresh
    have uncalled : w.calls = [] := by simpa using fresh
    have arrived : w.Step { w with calls := w.calls ++ [(⟨"host", 0, 0⟩, .start)] } := .arrive _
    simpa only [uncalled, List.nil_append] using arrived

/-- The crossing, up to the second update of the sweep. -/
def crossed : Run 8 where
  state := crossing
  step time _ := by
    simp only [crossing]
    split
    · exact .move 1 (step_heed _)
    · exact .move 0 (Watch.Run.step_proceed _)

private theorem crossed_start : Start (crossed.state 0) where
  stored := ⟨_, rfl⟩
  alone _ _ member := absurd member List.not_mem_nil
  uncalled _ := rfl
  unswept _ := rfl

private theorem crossed_falls :
    ¬ HasDown (crossed.state 7) "host" ∧ HasDown (crossed.state 8) "host" := by
  constructor
  · rintro ⟨t, held, row, member, -, down⟩
    cases held
    cases List.mem_singleton.mp member
    exact absurd down (by unfold Store.Row.IsDown; decide)
  · exact ⟨_, rfl, _, .head _, rfl, rfl⟩

theorem host_falls_outside_own_window : Start (crossed.state 0) ∧ 7 < 8 ∧
    ¬ HasDown (crossed.state 7) "host" ∧ HasDown (crossed.state 8) "host" ∧
    ∃ daemon window taken, (crossed.view daemon).Commits 7 window ∧
      (crossed.view daemon).LastTake 7 taken window ∧
      "host" ∉ ((crossed.state taken).daemons daemon).services.tracker.seen := by
  obtain ⟨up, down⟩ := crossed_falls
  obtain ⟨falls, -⟩ := rows_fall_outside_own_window crossed_start (by decide : 7 < 8)
  obtain ⟨daemon, window, taken, commits, last, outside, -⟩ := falls "host" up down
  exact ⟨crossed_start, by decide, up, down, daemon, window, taken, commits, last, outside⟩

/-- The host goes down although the second daemon has marked it, has taken no window, and still has the mark
when the first daemon takes the window of its sweep. -/
theorem host_heard_elsewhere_goes_down : Start (crossed.state 0) ∧
    (crossed.view 1).Marks "host" 1 2 ∧
    (∀ time < 8, ∀ window, ¬ (crossed.view 1).Takes time window) ∧
    (crossed.view 0).LastTake 7 5 [] ∧
    "host" ∈ ((crossed.state 5).daemons 1).services.tracker.seen ∧
    (crossed.view 0).Commits 7 [] ∧
    ¬ HasDown (crossed.state 7) "host" ∧ HasDown (crossed.state 8) "host" := by
  have unswept : ∀ time < 8, ((crossed.view 1).state time).sweeping.isNone := by decide
  refine ⟨crossed_start, ?_, ?_, ?_, ?_, ⟨_, _, rfl, rfl⟩, crossed_falls⟩
  · refine ⟨by decide, 0, ⟨"host", 0, 0⟩, .add, .resolve .lookUp, rfl, rfl, rfl, rfl, ?_⟩
    rintro _ ⟨⟩
  · rintro time within window ⟨sweeping, -⟩
    simpa [sweeping] using unswept time within
  · refine ⟨by decide, ⟨rfl, rfl⟩, rfl, ?_⟩
    intro later other after within takes
    obtain rfl : later = 6 := by omega
    cases takes.1
  · decide

end Fleet.Run
end Heartbeat
