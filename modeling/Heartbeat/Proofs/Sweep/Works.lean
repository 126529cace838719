import Heartbeat.Proofs.Store.Rollback
import Heartbeat.Services

/-! The side of a daemon that the sweeps depend on: its tracker and its table. One operation of a signal
adds marks to the tracker and at most one row, which is up; one operation of a sweep takes the window or
writes one of its two updates, wholly or not at all. -/
namespace Heartbeat
open Store (Table)
open Time (Instant)

namespace Store

/-- The row is up, and is written that way. -/
def Row.IsUp (row : Row) : Prop := row.status = .integer Status.up.toColumn

/-- The row is down, and is written that way. -/
def Row.IsDown (row : Row) : Prop := row.status = .integer Status.down.toColumn

/-- What the work on signals does to a table: nothing, or a row for an address that had none. -/
inductive Table.Gains (t : Table) : Table → Prop where
  | same : Gains t t
  | row {row : Row} (up : row.IsUp) (fresh : row.address ∉ t.addresses) : Gains t (t.add row)

theorem Table.Gains.nodup {t t' : Table} (gains : t.Gains t') (unique : t.addresses.Nodup) :
    t'.addresses.Nodup := by
  cases gains with
  | same => exact unique
  | row up fresh => exact Table.nodup_add unique fresh

theorem Table.Gains.mem {t t' : Table} {row : Row} (gains : t.Gains t') (member : row ∈ t'.rows) :
    row ∈ t.rows ∨ row.IsUp := by
  cases gains with
  | same => exact .inl member
  | row up fresh =>
    rcases Table.mem_add.mp member with rfl | old
    · exact .inr up
    · exact .inl old

theorem Row.IsUp.not_isDown {row : Row} (up : row.IsUp) : ¬ row.IsDown := by
  unfold IsUp at up
  unfold IsDown
  rw [up]
  decide

end Store

variable {s s' : Services} {t t' : Table} {address : String}

namespace Services

/-- Nobody else writes rows into the store. -/
def Alone (s : Services) : Prop := ∀ entry ∈ s.disturbances, entry.2 ≠ .rival

/-- Work on signals has taken a daemon over a table from one state to another. -/
structure Works (t : Table) (s s' : Services) : Prop where
  alone : s'.Alone
  seen : s.tracker.seen ⊆ s'.tracker.seen
  table : ∃ t', s'.database.table = some t' ∧ t.Gains t'

/-- Work that leaves the table, the tracker and the disturbances alone. -/
theorem Works.of_same (alone : s.Alone) (held : s.database.table = some t)
    (disturbances : s'.disturbances = s.disturbances) (tracker : s'.tracker = s.tracker)
    (database : s'.database = s.database) : Works t s s' where
  alone := by simpa only [Alone, disturbances] using alone
  seen := by rw [tracker]; exact fun _ => id
  table := ⟨t, by rw [database, held], .same⟩

theorem takeFirst_subset (call : StoreCall) (list : List (StoreCall × Disturbance)) :
    (takeFirst call list).2 ⊆ list ∧
      ((takeFirst call list).1 = .none ∨ (call, (takeFirst call list).1) ∈ list) := by
  induction list with
  | nil => exact ⟨fun _ => id, .inl rfl⟩
  | cons entry rest ih =>
    obtain ⟨other, disturbance⟩ := entry
    obtain ⟨subset, taken⟩ := ih
    simp only [takeFirst]
    split
    · rename_i same
      subst same
      exact ⟨List.subset_cons_self _ _, .inr (.head _)⟩
    · refine ⟨List.cons_subset_cons _ subset, taken.imp_right (.tail _)⟩

/-- What a daemon goes through while it waits for a call to the store: signals may arrive, and nothing else
happens. -/
structure Waits (call : StoreCall) (s s' : Services) : Prop where
  alone : s'.Alone
  pending : s'.disturbances ⊆ s.disturbances
  kept : s.tracker.seen ⊆ s'.tracker.seen
  arrived : ∀ address ∈ s'.tracker.seen,
    address ∈ s.tracker.seen ∨ (call, Disturbance.mark address) ∈ s.disturbances
  sweepStatus : s'.sweepStatus = s.sweepStatus

theorem Waits.trans {s'' : Services} {call : StoreCall} (first : s.Waits call s')
    (second : s'.Waits call s'') : s.Waits call s'' where
  alone := second.alone
  pending := List.Subset.trans second.pending first.pending
  kept := List.Subset.trans first.kept second.kept
  arrived address member := by
    rcases second.arrived address member with before | arrived
    · exact first.arrived address before
    · exact .inr (first.pending arrived)
  sweepStatus := second.sweepStatus.trans first.sweepStatus

/-- A disturbance that is nobody's row leaves the database alone and at most adds a mark. -/
theorem disturb_waits (alone : s.Alone) (call : StoreCall) (address : String) :
    s.Waits call (s.disturb call address).2 ∧ (s.disturb call address).2.database = s.database := by
  obtain ⟨subset, taken⟩ := takeFirst_subset call s.disturbances
  have others : ∀ entry ∈ (takeFirst call s.disturbances).2, entry.2 ≠ .rival :=
    fun entry member => alone entry (subset member)
  unfold disturb
  generalize takeFirst call s.disturbances = first at *
  obtain ⟨disturbance, rest⟩ := first
  cases disturbance with
  | rival =>
    rcases taken with none | member
    · cases none
    · exact absurd rfl (alone _ member)
  | mark marked =>
    refine ⟨⟨others, subset, fun other seen => Tracker.mem_mark.mpr (.inr seen), fun other member => ?_, rfl⟩, rfl⟩
    rcases Tracker.mem_mark.mp member with rfl | before
    · exact .inr (taken.resolve_left nofun)
    · exact .inl before
  | none => exact ⟨⟨others, subset, fun _ => id, fun _ => .inl, rfl⟩, rfl⟩
  | unavailable => exact ⟨⟨others, subset, fun _ => id, fun _ => .inl, rfl⟩, rfl⟩
  | conflict => exact ⟨⟨others, subset, fun _ => id, fun _ => .inl, rfl⟩, rfl⟩

/-- A search changes nothing that the sweeps look at. -/
theorem find_works (alone : s.Alone) (held : s.database.table = some t) :
    Works t s (s.find address).2 := by
  obtain ⟨waits, database⟩ := disturb_waits alone .find address
  unfold find
  generalize s.disturb .find address = disturbed at waits database ⊢
  obtain ⟨_ | fault, after⟩ := disturbed
  · have held' : after.database.table = some t := by rw [← held, ← database]
    exact ⟨waits.alone, waits.kept, t, by simp only [Store.Database.find, held'], .same⟩
  · exact ⟨waits.alone, waits.kept, t, by rw [database, held], .same⟩

/-- A creation as up adds at most its own row. -/
theorem create_works (alone : s.Alone) (held : s.database.table = some t) (name : String) :
    Works t s (s.create name address .up).2 := by
  obtain ⟨waits, database⟩ := disturb_waits alone .create address
  unfold create
  generalize s.disturb .create address = disturbed at waits database ⊢
  obtain ⟨_ | fault, after⟩ := disturbed
  · have held' : after.database.table = some t := by rw [← held, ← database]
    refine ⟨waits.alone, waits.kept, ?_⟩
    simp only [readClock, Store.Database.create, held']
    rcases t.create_cases (after.clock after.readings) name address .up with
      ⟨eq, -⟩ | ⟨eq, -⟩ | ⟨eq, fresh⟩
    · exact ⟨t, by rw [eq]; exact held', .same⟩
    · exact ⟨t, by rw [eq]; exact held', .same⟩
    · exact ⟨t.add (t.newRow (after.clock after.readings) name address .up), by rw [eq],
        .row rfl fresh⟩
  · exact ⟨waits.alone, waits.kept, t, by rw [database, held], .same⟩

/-- Queueing a document is none of the sweeps' business. -/
theorem enqueue_works (alone : s.Alone) (held : s.database.table = some t) (document : Document) :
    Works t s (s.enqueue document).2 := by
  simp only [enqueue]
  split <;> exact .of_same alone held rfl rfl rfl

/-- Updates statuses in a transaction of which the statements at the given places fail. -/
def setStatusFailing (fails : Nat → Bool) (addresses : List String) (membership : Store.Membership)
    (status : Status) (s : Services) : Except Store.Fault Nat × Services :=
  match s.disturb .setStatus "" with
  | (some fault, s) => (.error fault, s)
  | (none, s) =>
    let (now, s) := s.readClock
    let (result, database) := s.database.setStatusFailing fails now addresses membership status
    (result, { s with database })

/-- The services as a back-end whose status updates may fail on the way. -/
def backendFailing (fails : Nat → Bool) : Backend Services :=
  { backend with setStatus := setStatusFailing fails }

theorem backendFailing_never : backendFailing (fun _ => false) = backend := rfl

/-- A call to update statuses fails and leaves the table as it was, or it writes the update. -/
theorem setStatusFailing_ends (alone : s.Alone) (fails : Nat → Bool) (addresses : List String)
    (membership : Store.Membership) (status : Status) :
    s.Waits .setStatus (s.setStatusFailing fails addresses membership status).2 ∧
    ((∃ fault, (s.setStatusFailing fails addresses membership status).1 = .error fault ∧
        (s.setStatusFailing fails addresses membership status).2.database.table = s.database.table) ∨
      ∃ t now, s.database.table = some t ∧
        (s.setStatusFailing fails addresses membership status).1 =
          .ok (t.update now addresses membership status).1 ∧
        (s.setStatusFailing fails addresses membership status).2.database.table =
          some (t.update now addresses membership status).2) := by
  obtain ⟨waits, database⟩ := disturb_waits alone .setStatus ""
  unfold setStatusFailing
  generalize s.disturb .setStatus "" = disturbed at waits database ⊢
  obtain ⟨_ | fault, after⟩ := disturbed
  · refine ⟨⟨waits.alone, waits.pending, waits.kept, waits.arrived, waits.sweepStatus⟩, ?_⟩
    simp only [readClock, ← database]
    rcases after.database.setStatusFailing_ends fails (after.clock after.readings) addresses membership
      status with ⟨_, _, -, eq⟩ | ⟨-, t, held, eq⟩
    · rw [eq]
      exact .inl ⟨_, rfl, rfl⟩
    · rw [eq]
      exact .inr ⟨t, _, held, rfl, rfl⟩
  · exact ⟨waits, .inl ⟨fault, rfl, congrArg _ database⟩⟩

end Services

/-- One operation of a resolution is work on a signal. -/
theorem ResolvePhase.step_works (alone : s.Alone) (held : s.database.table = some t)
    (phase : ResolvePhase) : s.Works t (phase.step Services.backend address s).2 := by
  cases phase with
  | lookUp => exact .of_same alone held rfl rfl rfl
  | find => exact s.find_works alone held
  | create => exact s.create_works alone held address
  | findAgain => exact s.find_works alone held
  | done => exact .of_same alone held rfl rfl rfl

/-- **One operation of a signal**: marks and rows are only added, and a new row is up. -/
theorem ProcessPhase.step_works (alone : s.Alone) (held : s.database.table = some t)
    (signal : Signal) (phase : ProcessPhase) :
    s.Works t (phase.step Services.backend signal s).2 := by
  cases phase with
  | mark step =>
    cases step with
    | look => exact .of_same alone held rfl rfl rfl
    | add => exact ⟨alone, fun other seen => Tracker.mem_insert.mpr (.inr seen), t, held, .same⟩
    | done => exact .of_same alone held rfl rfl rfl
  | resolve phase => exact phase.step_works alone held
  | stamp => exact .of_same alone held rfl rfl rfl
  | cache record =>
    simp only [step, cacheRecord, Services.backend, Services.cacheSet]
    split <;> exact .of_same alone held rfl rfl rfl
  | submit record =>
    have queued := s.enqueue_works alone held (Document.ofSignal record signal)
    simp only [step, Services.backend]
    split <;> (rename_i eq; rw [eq] at queued; exact queued)
  | count => exact .of_same alone held rfl rfl rfl
  | done => exact .of_same alone held rfl rfl rfl

/-- Nothing leads to a mark that is done but not left. -/
theorem ProcessPhase.step_ne_done {signal : Signal} (phase : ProcessPhase) :
    (phase.step Services.backend signal s).1 ≠ .mark .done := by
  cases phase with
  | mark step => cases step <;> simp only [step] <;> (try split) <;> rintro ⟨⟩
  | resolve phase => simp only [step]; unfold afterResolve; split <;> rintro ⟨⟩
  | submit => simp only [step]; split <;> rintro ⟨⟩
  | _ => rintro ⟨⟩

/-- A call whose mark is behind it has left its address in the tracker. -/
theorem ProcessPhase.seen_of_marked {signal : Signal} {mark : Tracker.MarkPhase}
    (pending : mark ≠ .done)
    (marked : ∀ other, ((ProcessPhase.mark mark).step Services.backend signal s).1 ≠ .mark other) :
    signal.address ∈ ((ProcessPhase.mark mark).step Services.backend signal s).2.tracker.seen := by
  cases mark with
  | look =>
    simp only [step, Services.backend] at marked ⊢
    by_cases known : s.tracker.contains signal.address
    · simpa [Tracker.contains] using known
    · exact absurd (if_neg known) (marked .add)
  | add => exact Tracker.mem_insert.mpr (.inl rfl)
  | done => exact absurd rfl pending

end Heartbeat
