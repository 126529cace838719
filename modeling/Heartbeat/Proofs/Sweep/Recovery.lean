import Mathlib.Data.List.Perm.Subperm
import Heartbeat.Proofs.Store.Selection
import Heartbeat.Proofs.Sweep.Works

/-! Sweeps that fail, and what repairs them. A sweep has used up its window wherever it ends: with its first
update, which then is all that was tried; with its second, and the rows of the window are up; or with a report.
What a failed sweep has left in the rows does not matter to the next one that succeeds, because that writes every
row by its own window alone. -/
namespace Heartbeat
open Store (Table Row Membership)
open Time (Instant)

/-! ## The ends of a sweep -/

/-- Where a sweep over a back-end ends, with the state that its last operation has left. -/
inductive SweepEnds (b : Backend σ) (status : SweepStatus) (s : σ) :
    Except Store.Fault SweepReport × SweepStatus × σ → Prop where
  /-- The first update fails, and the second is not tried. -/
  | untouched {fault : Store.Fault} {left : σ}
      (first : b.setStatus (b.takeWindow s).1 .inside .up (b.takeWindow s).2 = (.error fault, left)) :
      SweepEnds b status s (.error fault, ⟨false, status.lastRun⟩, left)
  | halfway {up : Nat} {fault : Store.Fault} {between left : σ}
      (first : b.setStatus (b.takeWindow s).1 .inside .up (b.takeWindow s).2 = (.ok up, between))
      (second : b.setStatus (b.takeWindow s).1 .outside .down between = (.error fault, left)) :
      SweepEnds b status s (.error fault, ⟨false, status.lastRun⟩, left)
  | finished {up down : Nat} {report : SweepReport} {between left : σ}
      (first : b.setStatus (b.takeWindow s).1 .inside .up (b.takeWindow s).2 = (.ok up, between))
      (second : b.setStatus (b.takeWindow s).1 .outside .down between = (.ok down, left))
      (told : report = ⟨(b.takeWindow s).1.length, up, down, (b.readClock left).1⟩) :
      SweepEnds b status s (.ok report, ⟨false, some report⟩, (b.readClock left).2)

theorem sweep_ends (b : Backend σ) (status : SweepStatus) (s : σ) :
    SweepEnds b status s (sweep b status s) := by
  simp only [sweep, SweepPhase.advance, SweepPhase.step]
  rcases first : b.setStatus (b.takeWindow s).1 .inside .up (b.takeWindow s).2 with ⟨_ | up, between⟩
  · exact .untouched first
  · rcases second : b.setStatus (b.takeWindow s).1 .outside .down between with ⟨_ | down, left⟩
    · dsimp only
      rw [second]
      exact .halfway first second
    · dsimp only
      rw [second]
      exact .finished first second rfl

namespace Services

variable {s s' u : Services} {t v : Table} {fails : Membership → Nat → Bool} {window : List String}

/-! ## Sweeps that fail -/

/-- The services as a back-end whose two updates fail at statements of their own. -/
def backendBreaking (fails : Membership → Nat → Bool) : Backend Services :=
  { backend with
    setStatus := fun addresses membership => setStatusFailing (fails membership) addresses membership }

/-- A sweep whose two updates fail at statements of their own. -/
def sweepBreaking (fails : Membership → Nat → Bool) (s : Services) :
    Except Store.Fault SweepReport × Services :=
  let (result, sweepStatus, s) := Heartbeat.sweep (backendBreaking fails) s.sweepStatus s
  (result, { s with sweepStatus })

theorem sweepBreaking_never : sweepBreaking (fun _ _ => false) = sweep := funext fun _ => rfl

/-! ## A whole sweep -/

/-- The services with the window taken. -/
def taken (s : Services) : Services := { s with tracker := s.tracker.take.2 }

/-- The services between sweeps, with this report of the last that succeeded. -/
def idle (s : Services) (lastRun : Option SweepReport) : Services := { s with sweepStatus := ⟨false, lastRun⟩ }

/-- What a sweep comes to. -/
inductive Swept (fails : Membership → Nat → Bool) (s : Services) :
    Except Store.Fault SweepReport × Services → Prop where
  /-- The first update has failed, and nothing was done after it. -/
  | untouched {fault : Store.Fault} {left : Services} (waits : s.taken.Waits .setStatus left)
      (first : s.taken.setStatusFailing (fails .inside) s.tracker.seen .inside .up = (.error fault, left))
      (table : left.database.table = s.database.table) :
      Swept fails s (.error fault, left.idle s.sweepStatus.lastRun)
  | halfway {fault : Store.Fault} {between left : Services} {t : Table} {now : Instant}
      (waits : s.taken.Waits .setStatus left) (held : s.database.table = some t)
      (first : s.taken.setStatusFailing (fails .inside) s.tracker.seen .inside .up =
        (.ok (t.update now s.tracker.seen .inside .up).1, between))
      (second : between.setStatusFailing (fails .outside) s.tracker.seen .outside .down =
        (.error fault, left))
      (table : left.database.table = some (t.update now s.tracker.seen .inside .up).2) :
      Swept fails s (.error fault, left.idle s.sweepStatus.lastRun)
  | finished {report : SweepReport} {between left : Services} {t : Table} {now later : Instant}
      (waits : s.taken.Waits .setStatus left) (held : s.database.table = some t)
      (first : s.taken.setStatusFailing (fails .inside) s.tracker.seen .inside .up =
        (.ok report.markedUp, between))
      (second : (between.setStatusFailing (fails .outside) s.tracker.seen .outside .down).1 =
        .ok report.markedDown)
      (seen : report.seen = s.tracker.size)
      (rises : report.markedUp = (t.update now s.tracker.seen .inside .up).1)
      (falls : report.markedDown =
        ((t.update now s.tracker.seen .inside .up).2.update later s.tracker.seen .outside .down).1)
      (table : left.database.table =
        some ((t.update now s.tracker.seen .inside .up).2.update later s.tracker.seen .outside .down).2) :
      Swept fails s (.ok report, left.idle (some report))

/-- **A sweep comes to one of three things.** -/
theorem swept (alone : s.Alone) (fails : Membership → Nat → Bool) : Swept fails s (s.sweepBreaking fails) := by
  have ends := sweep_ends (backendBreaking fails) s.sweepStatus s
  unfold sweepBreaking
  obtain ⟨waits, writes⟩ :=
    setStatusFailing_ends (s := s.taken) alone (fails .inside) s.tracker.seen .inside .up
  generalize Heartbeat.sweep (backendBreaking fails) s.sweepStatus s = ended at ends ⊢
  cases ends with
  | @untouched fault left first =>
    replace first : s.taken.setStatusFailing (fails .inside) s.tracker.seen .inside .up =
      (.error fault, left) := first
    rw [first] at waits writes
    rcases writes with ⟨_, -, same⟩ | ⟨_, _, -, ok, -⟩
    · exact .untouched waits first same
    · cases ok
  | @halfway up fault between left first second =>
    replace first : s.taken.setStatusFailing (fails .inside) s.tracker.seen .inside .up =
      (.ok up, between) := first
    replace second : between.setStatusFailing (fails .outside) s.tracker.seen .outside .down =
      (.error fault, left) := second
    rw [first] at waits writes
    obtain ⟨waits', writes'⟩ :=
      setStatusFailing_ends waits.alone (fails .outside) s.tracker.seen .outside .down
    rw [second] at waits' writes'
    rcases writes with ⟨_, error, -⟩ | ⟨t, now, held, ok, risen⟩
    · cases error
    · cases ok
      rcases writes' with ⟨_, -, same⟩ | ⟨_, _, -, ok, -⟩
      · exact .halfway (waits.trans waits') held first second (same.trans risen)
      · cases ok
  | @finished up down report between left first second told =>
    replace first : s.taken.setStatusFailing (fails .inside) s.tracker.seen .inside .up =
      (.ok up, between) := first
    replace second : between.setStatusFailing (fails .outside) s.tracker.seen .outside .down =
      (.ok down, left) := second
    rw [first] at waits writes
    obtain ⟨waits', writes'⟩ :=
      setStatusFailing_ends waits.alone (fails .outside) s.tracker.seen .outside .down
    rw [second] at waits' writes'
    rcases writes with ⟨_, error, -⟩ | ⟨t, now, held, ok, risen⟩
    · cases error
    rcases writes' with ⟨_, error, -⟩ | ⟨t', later, held', ok', fallen⟩
    · cases error
    cases ok
    cases ok'
    cases risen.symm.trans held'
    subst told
    have through := waits.trans waits'
    have read : s.taken.Waits .setStatus left.readClock.2 :=
      ⟨through.alone, through.pending, through.kept, through.arrived, through.sweepStatus⟩
    exact .finished read held first (congrArg Prod.fst second) rfl rfl rfl fallen

/-! ## What a report counts -/

/-- No more servers go up than were seen. -/
theorem risen_le (unique : t.addresses.Nodup) (window : List String) (now : Instant) :
    (t.update now window .inside .up).1 ≤ window.length := by
  have inside : t.addresses.filter (Membership.inside.selects window) ⊆ window := by
    intro address member
    exact Membership.selects_iff.mp (List.mem_filter.mp member).2
  calc (t.update now window .inside .up).1
    _ ≤ t.addresses.countP (Membership.inside.selects window) := Table.written_le
    _ = (t.addresses.filter (Membership.inside.selects window)).length := List.countP_eq_length_filter
    _ ≤ window.length := (List.subperm_of_subset (unique.filter _) inside).length_le

/-- No server goes up and down in one sweep. -/
theorem moved_le (t : Table) (window : List String) (now later : Instant) :
    (t.update now window .inside .up).1 +
      ((t.update now window .inside .up).2.update later window .outside .down).1 ≤ t.rows.length := by
  have risen : (t.update now window .inside .up).1 ≤ t.addresses.countP (Membership.inside.selects window) :=
    Table.written_le
  have fallen : ((t.update now window .inside .up).2.update later window .outside .down).1 ≤
      t.addresses.countP (Membership.outside.selects window) :=
    Table.written_le.trans_eq (by rw [Table.addresses_update])
  have split : t.addresses.length = t.addresses.countP (Membership.inside.selects window) +
      t.addresses.countP (Membership.outside.selects window) := by
    rw [List.length_eq_countP_add_countP (Membership.inside.selects window)]
    congr 2
    funext address
    simp [Membership.selects]
  have size : t.addresses.length = t.rows.length := List.length_map _
  omega

/-! ## Histories of sweeps -/

/-- Sweeps lead from one state to another, some of which may have failed, and between them anything that
touches no row. -/
inductive Trail (s : Services) : Services → Prop where
  | start : Trail s s
  | sweep {u : Services} (trail : Trail s u) (fails : Membership → Nat → Bool) :
      Trail s (u.sweepBreaking fails).2
  | between {u v : Services} (trail : Trail s u) (alone : v.Alone)
      (table : v.database.table = u.database.table) : Trail s v

/-- A sweep keeps the rows' servers. -/
theorem Swept.alike {ended : Except Store.Fault SweepReport × Services} (swept : Swept fails s ended)
    (held : s.database.table = some t) : ended.2.Alone ∧
      ∃ v, ended.2.database.table = some v ∧ List.Forall₂ Row.Alike t.rows v.rows := by
  cases swept with
  | untouched waits _ table =>
    exact ⟨waits.alone, t, table.trans held, List.forall₂_same.mpr fun row _ => .refl row⟩
  | halfway waits held' _ _ table =>
    cases held.symm.trans held'
    exact ⟨waits.alone, _, table, Table.alike_update⟩
  | finished waits held' _ _ _ _ _ table =>
    cases held.symm.trans held'
    exact ⟨waits.alone, _, table, forall₂_comp .trans Table.alike_update Table.alike_update⟩

theorem Trail.alike (trail : s.Trail u) (alone : s.Alone) (held : s.database.table = some t) :
    u.Alone ∧ ∃ v, u.database.table = some v ∧ List.Forall₂ Row.Alike t.rows v.rows := by
  induction trail with
  | start => exact ⟨alone, t, held, List.forall₂_same.mpr fun row _ => .refl row⟩
  | sweep _ fails ih =>
    obtain ⟨alone', v, held', alike⟩ := ih
    obtain ⟨alone'', w, held'', alike'⟩ := (swept alone' fails).alike held'
    exact ⟨alone'', w, held'', forall₂_comp .trans alike alike'⟩
  | between _ alone' table ih =>
    obtain ⟨-, v, held', alike⟩ := ih
    exact ⟨alone', v, table.trans held', alike⟩

/-- Two sweeps that see the same leave the same statuses in the same servers' rows. -/
theorem sameStatus_of_alike {window seen : List String} {now later now' later' : Instant}
    (alike : List.Forall₂ Row.Alike t.rows v.rows) (same : ∀ address, address ∈ seen ↔ address ∈ window) :
    List.Forall₂ Row.SameStatus
      ((t.update now window .inside .up).2.update later window .outside .down).2.rows
      ((v.update now' seen .inside .up).2.update later' seen .outside .down).2.rows := by
  simp only [Table.rows_update, List.map_map, List.forall₂_map_left_iff, List.forall₂_map_right_iff]
  refine alike.imp fun row other kin => ⟨?_, ?_⟩
  · exact (Table.mark_alike.trans Table.mark_alike).trans
      (kin.trans (Table.mark_alike.trans Table.mark_alike).symm)
  · have seen_eq : Table.sweptStatus window row.address = Table.sweptStatus seen other.address := by
      simp only [Table.sweptStatus, same, kin.address]
    exact Table.status_up_down.trans (seen_eq ▸ Table.status_up_down.symm)

/-- **Failed sweeps are repaired.** Whatever fails of a sweep, it leaves no sweep under way, and in the tracker
nothing but what has arrived since it took the window. With a report, which is published, it tells the size of
the window, has put up no more servers than that, and has moved no more than there are; without one, the last
report stays. If the first update fails, the sweep ends with what that has left, and no row has changed; if the
second fails, the first is what has become of the rows. And after any history of sweeps, a sweep that succeeds
leaves every server in the status in which a sweep with the same window would have left it without that
history. -/
theorem failed_sweeps_are_repaired {result : Except Store.Fault SweepReport} (alone : s.Alone)
    (unique : ∀ t, s.database.table = some t → t.addresses.Nodup)
    (ended : s.sweepBreaking fails = (result, s')) :
    s'.sweepStatus.sweeping = false ∧
      (∀ address ∈ s'.tracker.seen, (StoreCall.setStatus, Disturbance.mark address) ∈ s.disturbances) ∧
      (∀ report, result = .ok report → s'.sweepStatus.lastRun = some report ∧
        report.seen = s.tracker.size ∧ report.markedUp ≤ report.seen ∧
        ∃ t, s.database.table = some t ∧ report.markedUp + report.markedDown ≤ t.rows.length) ∧
      (∀ fault, result = .error fault → s'.sweepStatus.lastRun = s.sweepStatus.lastRun) ∧
      (∀ fault left,
        s.taken.setStatusFailing (fails .inside) s.tracker.seen .inside .up = (.error fault, left) →
        result = .error fault ∧ s' = left.idle s.sweepStatus.lastRun ∧
          s'.database.table = s.database.table) ∧
      (∀ up between fault left,
        s.taken.setStatusFailing (fails .inside) s.tracker.seen .inside .up = (.ok up, between) →
        between.setStatusFailing (fails .outside) s.tracker.seen .outside .down = (.error fault, left) →
        result = .error fault ∧ ∃ t now, s.database.table = some t ∧
          s'.database.table = some (t.update now s.tracker.seen .inside .up).2) ∧
      ∀ report, result = .ok report → ∀ u fails' report' u', s.Trail u →
        (∀ address, address ∈ u.tracker.seen ↔ address ∈ s.tracker.seen) →
        u.sweepBreaking fails' = (.ok report', u') →
        ∃ t t', s'.database.table = some t ∧ u'.database.table = some t' ∧
          List.Forall₂ Row.SameStatus t.rows t'.rows := by
  have swept := swept alone fails
  rw [ended] at swept
  cases swept with
  | untouched waits first table =>
    refine ⟨rfl, fun address member => (waits.arrived address member).resolve_left List.not_mem_nil,
      fun _ ok => ?_, fun _ _ => rfl, fun fault left failed => ?_, fun up between _ _ ok => ?_, fun _ ok => ?_⟩
    · cases ok
    · cases first.symm.trans failed
      exact ⟨rfl, rfl, table⟩
    · cases first.symm.trans ok
    · cases ok
  | @halfway fault between left t now waits held first second table =>
    refine ⟨rfl, fun address member => (waits.arrived address member).resolve_left List.not_mem_nil,
      fun _ ok => ?_, fun _ _ => rfl, fun _ _ failed => ?_, fun up between' fault' left' ok failed => ?_,
      fun _ ok => ?_⟩
    · cases ok
    · cases first.symm.trans failed
    · cases first.symm.trans ok
      cases second.symm.trans failed
      exact ⟨rfl, t, now, held, table⟩
    · cases ok
  | @finished report between left t now later waits held first second seen rises falls table =>
    refine ⟨rfl, fun address member => (waits.arrived address member).resolve_left List.not_mem_nil,
      fun _ ok => ?_, fun _ error => ?_, fun _ _ failed => ?_, fun _ _ _ _ ok failed => ?_,
      fun _ _ u fails' report' u' trail same ended' => ?_⟩
    · cases ok
      refine ⟨rfl, seen, ?_, t, held, ?_⟩
      · rw [rises, seen]
        exact risen_le (unique t held) s.tracker.seen now
      · rw [rises, falls]
        exact moved_le t s.tracker.seen now later
    · cases error
    · cases first.symm.trans failed
    · cases first.symm.trans ok
      rw [failed] at second
      cases second
    · obtain ⟨alone', v, held', alike⟩ := trail.alike alone held
      have repaired := Services.swept alone' fails'
      rw [ended'] at repaired
      cases repaired with
      | finished _ held'' _ _ _ _ _ table' =>
        cases held'.symm.trans held''
        exact ⟨_, _, table, table', sameStatus_of_alike alike same⟩

/-! ## A sweep that is repaired -/

/-- A daemon that has heard of one of its two servers, the one that is down. -/
def attentive : Services where
  tracker := ⟨["a"]⟩
  database := Store.Database.pair
  cache := { ttl := 0 }
  topic := { name := "signals", capacity := 1 }
  archive := .start ⟨1, 1, 1⟩ 0
  index := fun _ _ => .failed
  clock := fun _ => .epoch
  documentId := fun _ => ""

/-- The first statement of the second update fails. -/
def fallsFail (membership : Membership) (index : Nat) : Bool := membership == .outside && index == 0

/-- The daemon after a sweep of which only the first update succeeded, when the server is heard of again. -/
def relapsed : Services := { (attentive.sweepBreaking fallsFail).2 with tracker := attentive.tracker }

theorem trail_relapsed : attentive.Trail relapsed :=
  .between (.sweep .start fallsFail) nofun rfl

/-- Swept again after that, both servers are in the status in which a single sweep would have left them. -/
theorem heard_host_is_repaired :
    attentive.Alone ∧ (∀ t, attentive.database.table = some t → t.addresses.Nodup) ∧
    ∃ report once report' again t t', attentive.sweepBreaking (fun _ _ => false) = (.ok report, once) ∧
      report.markedUp ≤ report.seen ∧ relapsed.sweepBreaking (fun _ _ => false) = (.ok report', again) ∧
      report.markedUp = 1 ∧ report'.markedUp = 0 ∧
      once.database.table = some t ∧ again.database.table = some t' ∧
      List.Forall₂ Row.SameStatus t.rows t'.rows := by
  have alone : attentive.Alone := nofun
  have unique : ∀ t, attentive.database.table = some t → t.addresses.Nodup := by
    rintro t ⟨⟩
    decide
  have ended : attentive.sweepBreaking (fun _ _ => false) = (.ok _, _) := rfl
  obtain ⟨-, -, told, -, -, -, repaired⟩ := failed_sweeps_are_repaired alone unique ended
  obtain ⟨-, -, bound, -⟩ := told _ rfl
  obtain ⟨t, t', held, held', same⟩ := repaired _ rfl relapsed (fun _ _ => false) _ _ trail_relapsed
    (fun _ => .rfl) rfl
  exact ⟨alone, unique, _, _, _, _, t, t', rfl, bound, rfl, rfl, rfl, held, held', same⟩

end Services
end Heartbeat
