import Heartbeat.Proofs.Sweep.Watch

/-! What sweeps do to the rows, over whole runs of a daemon. The invariant follows the sweep under way:
its window is what the tracker held when it was last taken, and once the first update is written every
row of the window is up, also those that were born since. -/
namespace Heartbeat.Watch
open Store (Table)

/-- A run of so many steps. -/
structure Run (n : Nat) where
  state : Nat → Watch
  step : ∀ time < n, (state time).Step (state (time + 1))

namespace Run

variable {n time taken : Nat} {r : Run n} {t t' : Table}

/-- The sweep takes its window at a step. -/
def Takes (r : Run n) (time : Nat) (window : List String) : Prop :=
  (r.state time).sweeping = some .take ∧ (r.state (time + 1)).sweeping = some (.markUp window)

/-- The second update of a sweep succeeds at a step. -/
def Commits (r : Run n) (time : Nat) (window : List String) : Prop :=
  ∃ up count, (r.state time).sweeping = some (.markDown window up) ∧
    (r.state (time + 1)).sweeping = some (.finish window.length up count)

/-- The last window taken before a time, and when it was taken. -/
structure LastTake (r : Run n) (time taken : Nat) (window : List String) : Prop where
  before : taken < time
  takes : r.Takes taken window
  window_eq : window = (r.state taken).services.tracker.seen
  last : ∀ later other, taken < later → later < time → ¬ r.Takes later other

/-- A call has not looked at the tracker yet at one time, and ends its mark at the step of another. -/
def Marks (r : Run n) (address : String) (began ended : Nat) : Prop :=
  began ≤ ended ∧ ∃ (i : Nat) (signal : Signal) (mark : Tracker.MarkPhase) (phase : ProcessPhase),
    signal.address = address ∧ (r.state began).calls[i]? = some (signal, .mark .look) ∧
    (r.state ended).calls[i]? = some (signal, .mark mark) ∧
    (r.state (ended + 1)).calls[i]? = some (signal, phase) ∧ ∀ other, phase ≠ .mark other

/-- The address has a row that is down. -/
def HasDown (w : Watch) (address : String) : Prop :=
  ∃ t, w.services.database.table = some t ∧ ∃ row ∈ t.rows, row.address = address ∧ row.IsDown

/-- A run starts with a table that repeats no address, and with nothing under way. -/
structure Start (w : Watch) : Prop where
  stored : ∃ t, w.services.database.table = some t ∧ t.addresses.Nodup
  alone : w.services.Alone
  uncalled : w.calls = []
  unswept : w.sweeping = none

/-- The invariant of a run. -/
structure Sound (r : Run n) (time : Nat) (t : Table) : Prop where
  held : (r.state time).services.database.table = some t
  unique : t.addresses.Nodup
  alone : (r.state time).services.Alone
  plain : (r.state time).Plain
  taken : ∀ window, ((r.state time).sweeping = some (.markUp window) ∨
    ∃ up, (r.state time).sweeping = some (.markDown window up)) → ∃ taken, r.LastTake time taken window
  risen : ∀ window up, (r.state time).sweeping = some (.markDown window up) →
    ∀ row ∈ t.rows, row.address ∈ window → row.IsUp

theorem LastTake.later (last : r.LastTake time taken window)
    (sweeping : (r.state time).sweeping ≠ some .take) : r.LastTake (time + 1) taken window where
  before := Nat.lt_succ_of_lt last.before
  takes := last.takes
  window_eq := last.window_eq
  last later other after within := by
    rcases Nat.lt_succ_iff_lt_or_eq.mp within with earlier | rfl
    · exact last.last later other after earlier
    · exact fun takes => sweeping takes.1

/-- The sweep under way writes the window of the last take. -/
def Windowed (r : Run n) (time : Nat) : Prop :=
  ∀ window, ((r.state time).sweeping = some (.markUp window) ∨
    ∃ up, (r.state time).sweeping = some (.markDown window up)) →
      ∃ taken, r.LastTake time taken window

/-- A step that has one of the effects goes on with the window that was taken last. -/
theorem Windowed.next (windowed : r.Windowed time)
    (effect : Effect (r.state time) (r.state (time + 1)) t t') : r.Windowed (time + 1) := by
  intro window writing
  cases effect with
  | work _ same =>
    rw [same] at writing
    obtain ⟨taken, last⟩ := windowed window writing
    exact ⟨taken, last.later (by rcases writing with eq | ⟨_, eq⟩ <;> simp [eq])⟩
  | take sweeping next =>
    obtain rfl : window = (r.state time).services.tracker.seen := by
      rcases writing with eq | ⟨_, eq⟩ <;> simp_all
    refine ⟨time, Nat.lt_succ_self _, ⟨sweeping, next⟩, rfl, fun later other after within => ?_⟩
    exact absurd after (Nat.not_lt.mpr (Nat.lt_succ_iff.mp within))
  | @markUp other _ _ sweeping next =>
    obtain rfl : window = other := by rcases writing with eq | ⟨_, eq⟩ <;> simp_all
    obtain ⟨taken, last⟩ := windowed window (.inl sweeping)
    exact ⟨taken, last.later (by simp [sweeping])⟩
  | markDown _ next => rcases writing with eq | ⟨_, eq⟩ <;> simp_all
  | aside _ next =>
    rcases writing with eq | ⟨_, eq⟩ <;> rcases next _ eq with h | h | ⟨_, h⟩ <;> cases h

/-- A step that does not take the window takes no mark away. -/
theorem seen_of_effect (effect : Effect (r.state time) (r.state (time + 1)) t t')
    (untaken : ∀ window, ¬ r.Takes time window) :
    (r.state time).services.tracker.seen ⊆ (r.state (time + 1)).services.tracker.seen := by
  cases effect with
  | work _ _ seen => exact seen
  | take sweeping next => exact absurd ⟨sweeping, next⟩ (untaken _)
  | markUp _ _ seen => exact seen
  | markDown _ _ seen => exact seen
  | aside _ _ seen => exact seen

/-- Steps that do not take the window take no mark away. -/
theorem seen_of_effects {first last : Nat} (ordered : first ≤ last)
    (effects : ∀ time, first ≤ time → time < last →
      ∃ t t', Effect (r.state time) (r.state (time + 1)) t t')
    (untaken : ∀ time window, first ≤ time → time < last → ¬ r.Takes time window) :
    (r.state first).services.tracker.seen ⊆ (r.state last).services.tracker.seen := by
  induction last, ordered using Nat.le_induction with
  | base => exact fun _ => id
  | succ time ordered ih =>
    have earlier := ih
      (fun other low high => effects other low (Nat.lt_succ_of_lt high))
      (fun other window low high => untaken other window low (Nat.lt_succ_of_lt high))
    obtain ⟨t, t', effect⟩ := effects time ordered (Nat.lt_succ_self _)
    have later := seen_of_effect effect fun window => untaken time window ordered (Nat.lt_succ_self _)
    exact List.Subset.trans earlier later

/-- The invariant at the start. -/
theorem Start.sound (start : Start (r.state 0)) : ∃ t, r.Sound 0 t := by
  obtain ⟨t, held, unique⟩ := start.stored
  refine ⟨t, held, unique, start.alone, ?_, ?_, ?_⟩
  · simp [Plain, start.uncalled]
  · simp [start.unswept]
  · simp [start.unswept]

/-- One step keeps the invariant. -/
theorem Sound.next {t : Table} (sound : r.Sound time t) (within : time < n) :
    ∃ t', r.Sound (time + 1) t' ∧ Effect (r.state time) (r.state (time + 1)) t t' := by
  have step := r.step time within
  obtain ⟨alone, t', held, effect⟩ := step.effect sound.alone sound.held
  refine ⟨t', ⟨held, effect.nodup sound.unique, alone, step.plain sound.plain, ?_, ?_⟩, effect⟩
  · exact Windowed.next sound.taken effect
  · intro window up writing row member inside
    cases effect with
    | work gains same =>
      rcases gains.mem member with old | up'
      · exact sound.risen window up (same ▸ writing) row old inside
      · exact up'
    | take _ next => simp [next] at writing
    | @markUp other _ _ _ next =>
      obtain rfl : window = other := by simp_all
      obtain ⟨_, _, _, _, status⟩ := Table.row_of_update member
      rwa [if_pos (by simpa [Store.Membership.selects] using inside)] at status
    | markDown _ next => simp [next] at writing
    | aside _ next => rcases next _ writing with h | h | ⟨_, h⟩ <;> cases h

theorem sound (start : Start (r.state 0)) (within : time ≤ n) : ∃ t, r.Sound time t := by
  induction time with
  | zero => exact start.sound
  | succ time ih =>
    obtain ⟨t, sound⟩ := ih (Nat.le_of_lt within)
    obtain ⟨t', sound', -⟩ := sound.next within
    exact ⟨t', sound'⟩

/-- Between two takes the tracker only grows. -/
theorem seen_grows (start : Start (r.state 0)) {first last : Nat} (ordered : first ≤ last)
    (within : last ≤ n)
    (untaken : ∀ time window, first ≤ time → time < last → ¬ r.Takes time window) :
    (r.state first).services.tracker.seen ⊆ (r.state last).services.tracker.seen := by
  refine seen_of_effects ordered (fun time _ high => ?_) untaken
  obtain ⟨t, sound⟩ := sound start (Nat.le_of_lt (high.trans_le within))
  obtain ⟨t', -, effect⟩ := sound.next (high.trans_le within)
  exact ⟨t, t', effect⟩

/-- Whoever completes a mark between two takes is in the window of the second. -/
theorem mem_of_marks (start : Start (r.state 0)) {address : String} {began ended : Nat}
    (within : taken ≤ n) (before : ended < taken)
    (untaken : ∀ time window, began ≤ time → time < taken → ¬ r.Takes time window)
    (marks : r.Marks address began ended) : address ∈ (r.state taken).services.tracker.seen := by
  obtain ⟨ordered, i, signal, mark, phase, rfl, -, marking, after, marked⟩ := marks
  have inside : ended < n := Nat.lt_of_lt_of_le before within
  obtain ⟨t, sound⟩ := sound start (Nat.le_of_lt inside)
  refine seen_grows start before within (fun time window low => ?_)
    ((r.step ended inside).seen_of_marked sound.plain marking after marked)
  exact untaken time window (by omega)

/-- **Sweeps are exact.** When the second update of a sweep commits, the rows of its window are up and all
others are down, whatever they were and whenever they were made. And no row ever goes down otherwise, nor
in a sweep before whose take, and after the take before that, a mark of its address was begun and
completed. -/
theorem sweeps_are_exact (start : Start (r.state 0)) (within : time < n) :
    ∃ t t', (r.state time).services.database.table = some t ∧
      (r.state (time + 1)).services.database.table = some t' ∧
      t.addresses.Nodup ∧ t'.addresses.Nodup ∧
      (∀ window, r.Commits time window → (∃ taken, r.LastTake time taken window) ∧
        ∀ row ∈ t'.rows, (row.IsUp ↔ row.address ∈ window) ∧ (row.IsDown ↔ row.address ∉ window)) ∧
      ∀ address, ¬ HasDown (r.state time) address → HasDown (r.state (time + 1)) address →
        ∃ window taken, r.Commits time window ∧ r.LastTake time taken window ∧ address ∉ window ∧
          ∀ began ended,
            (∀ between other, began ≤ between → between < taken → ¬ r.Takes between other) →
            ended < taken → ¬ r.Marks address began ended := by
  obtain ⟨t, sound⟩ := sound start (Nat.le_of_lt within)
  obtain ⟨t', sound', effect⟩ := sound.next within
  refine ⟨t, t', sound.held, sound'.held, sound.unique, sound'.unique, ?_, ?_⟩
  · rintro window ⟨up, count, sweeping, committed⟩
    refine ⟨sound.taken window (.inr ⟨up, sweeping⟩), fun row member => ?_⟩
    have settled : if row.address ∈ window then row.IsUp else row.IsDown := by
      cases effect with
      | @markDown other _ _ _ was =>
        obtain rfl : window = other := by simp_all
        obtain ⟨old, present, -, named, status⟩ := Table.row_of_update member
        by_cases inside : row.address ∈ window
        · -- the update passes the row over, and the first one left it up
          rw [if_neg (by simpa [Store.Membership.selects] using inside)] at status
          rw [if_pos inside]
          exact status.trans (sound.risen window up sweeping old present (named ▸ inside))
        · rw [if_pos (by simpa [Store.Membership.selects] using inside)] at status
          rwa [if_neg inside]
      | work _ same => simp [same, sweeping] at committed
      | take was => simp [sweeping] at was
      | markUp was => simp [sweeping] at was
      | aside _ next => rcases next _ committed with h | h | ⟨_, h⟩ <;> cases h
    split at settled
    · rename_i inside
      exact ⟨iff_of_true settled inside, iff_of_false settled.not_isDown (not_not.mpr inside)⟩
    · rename_i outside
      exact ⟨iff_of_false (fun up => up.not_isDown settled) outside, iff_of_true settled outside⟩
  · rintro address fresh ⟨_, held, row, member, rfl, down⟩
    cases sound'.held.symm.trans held
    rcases effect.down member down with ⟨old, present, named, low⟩ |
      ⟨window, up, count, sweeping, committed, outside⟩
    · exact absurd ⟨t, sound.held, old, present, named, low⟩ fresh
    · obtain ⟨taken, last⟩ := sound.taken window (.inr ⟨up, sweeping⟩)
      refine ⟨window, taken, ⟨up, count, sweeping, committed⟩, last, outside, ?_⟩
      intro began ended untaken before marks
      refine outside (last.window_eq ▸ mem_of_marks start ?_ before untaken marks)
      exact Nat.le_of_lt (last.before.trans within)

/-! ## A sweep that is run -/

/-- A daemon with a server that is up, of which nothing is heard. -/
def silent : Watch where
  services :=
    { database :=
        { table := some ⟨[⟨1, "host", "host", .integer Status.up.toColumn, "", ""⟩], 1⟩ }
      cache := { ttl := 0 }
      topic := { name := "signals", capacity := 1 }
      archive := .start ⟨1, 1, 1⟩ 0
      index := fun _ _ => .failed
      clock := fun _ => .epoch
      documentId := fun _ => "" }

/-- The sweep goes on, or one begins. -/
def proceed (w : Watch) : Watch :=
  match w.sweeping with
  | none => { w with sweeping := some .announce }
  | some phase => w.sweep (fun _ => false) phase

theorem step_proceed (w : Watch) : w.Step (proceed w) := by
  unfold proceed
  split
  · rename_i idle; exact .begin idle
  · rename_i phase sweeping; exact .sweep _ sweeping

/-- A sweep, up to its second update. -/
def lonely : Run 5 where
  state time := proceed^[time] silent
  step time _ := by
    rw [Function.iterate_succ_apply']
    exact step_proceed _

private theorem lonely_start : Start (lonely.state 0) where
  stored := ⟨_, rfl, List.nodup_singleton _⟩
  alone _ member := absurd member (List.not_mem_nil)
  uncalled := rfl
  unswept := rfl

theorem lonely_host_goes_down : Start (lonely.state 0) ∧ 4 < 5 ∧ ¬ HasDown (lonely.state 4) "host" ∧
    HasDown (lonely.state 5) "host" ∧ ∃ window, lonely.Commits 4 window ∧ "host" ∉ window := by
  have up : ¬ HasDown (lonely.state 4) "host" := by
    rintro ⟨t, held, row, member, -, down⟩
    cases held
    cases List.mem_singleton.mp member
    exact absurd down (by unfold Store.Row.IsDown; decide)
  have down : HasDown (lonely.state 5) "host" := ⟨_, rfl, _, .head _, rfl, rfl⟩
  obtain ⟨-, -, -, -, -, -, -, turned⟩ := sweeps_are_exact lonely_start (by decide : 4 < 5)
  obtain ⟨window, -, commits, -, outside, -⟩ := turned "host" up down
  exact ⟨lonely_start, by decide, up, down, window, commits, outside⟩

end Run
end Heartbeat.Watch
