import Heartbeat.Proofs.Store.Selection

/-! What the number that a bulk update returns has to do with the records that are read before and after it. An
update writes the rows whose column holds another number than the one to be written, but every number except
zero is read as up. So a row that somebody else has put up with another number is written, stamped and
counted although its record was up before. Where rows hold just the numbers that the store itself writes, the
number returned is that of the records whose status has changed. -/
namespace Heartbeat
open Heartbeat.Time (Instant)

/-- How many records have another status in the second list, record by record. -/
def Record.transitions (before after : List Record) : Nat :=
  (before.zip after).countP fun pair => pair.1.status != pair.2.status

namespace Store

variable {membership : Membership} {listed : List String} {status : Status} {now : Instant} {row : Row}
  {rows : List Row} {r s : Record} {before after : List Record} {t t' : Table} {db db' : Database}
  {count : Nat} {fails : Nat → Bool}

/-! ## Numbers that are read alike -/

/-- The row is read as this status, but its column holds another number than the store writes for it. -/
def Row.respells (status : Status) (row : Row) : Bool :=
  match row.status with
  | .integer n => Status.ofColumn n == status && n != status.toColumn
  | _ => false

/-- The row holds a number that the store writes for a status. -/
def Row.Canonical (row : Row) : Prop := ∃ status : Status, row.status = .integer status.toColumn

theorem Row.Canonical.not_respells (canonical : row.Canonical) (status : Status) :
    row.respells status = false := by
  obtain ⟨held, eq⟩ := canonical
  rw [respells, eq]
  by_cases same : held = status <;> simp [same]

/-- Zero is the only number that is read as down. -/
theorem Row.not_respells_down (row : Row) : row.respells .down = false := by
  unfold respells
  cases row.status with
  | integer n =>
    by_cases zero : n = 0
    · simp [zero, Status.toColumn]
    · simp [Status.ofColumn, zero]
  | _ => rfl

/-- A record has the status and the time of the last update that its row spells. -/
theorem Row.state_of_record (spelled : row.record? = some r) :
    (∃ n, row.status = .integer n ∧ r.status = .ofColumn n) ∧
      Instant.readStrict row.updatedAt = .ok r.lastUpdated := by
  unfold record? at spelled
  split at spelled
  · rename_i n _ _ status _ updated
    cases spelled
    exact ⟨⟨n, status, rfl⟩, updated⟩
  · cases spelled

/-! ## What is written -/

namespace Table

/-- An update writes a row again whose record is in the status already. -/
def rewrites (listed : List String) (membership : Membership) (status : Status) (row : Row) : Bool :=
  membership.selects listed row.address && row.respells status

/-- The rows that an update is for hold the number of the status, if they are read as it. -/
def Uniform (t : Table) (listed : List String) (membership : Membership) (status : Status) : Prop :=
  ∀ row ∈ t.rows, membership.IsFor listed row.address → row.respells status = false

/-- What becomes of a record: its row is written because it is in another status, or written all the same, or
left alone. -/
inductive Fate (listed : List String) (membership : Membership) (status : Status) (row : Row)
    (r s : Record) : Prop where
  | changed (writes : writes listed membership status row = true)
      (rewrites : rewrites listed membership status row = false) (status : r.status ≠ s.status)
  | stamped (writes : writes listed membership status row = true)
      (rewrites : rewrites listed membership status row = true) (status : r.status = s.status)
  | kept (writes : writes listed membership status row = false)
      (rewrites : rewrites listed membership status row = false) (same : s = r)

theorem fate (spelled : row.record? = some r)
    (respelled : (mark now listed membership status row).record? = some s) :
    Fate listed membership status row r s := by
  obtain ⟨⟨n, column, read⟩, -⟩ := Row.state_of_record spelled
  by_cases wrote : writes listed membership status row = true
  · obtain ⟨differs, isFor⟩ := writes_iff.mp wrote
    obtain ⟨⟨m, column', reread⟩, -⟩ := Row.state_of_record respelled
    obtain rfl : status.toColumn = m := by
      simpa using (marked_mark.chosen isFor).symm.trans column'
    rw [Status.ofColumn_toColumn] at reread
    have other : n ≠ status.toColumn := fun same => differs (same ▸ column)
    have again : rewrites listed membership status row = (r.status == s.status) := by
      simp [rewrites, Membership.selects_iff.mpr isFor, Row.respells, column, other, read, reread]
    by_cases same : r.status = s.status
    · exact .stamped wrote (by simp [again, same]) same
    · exact .changed wrote (by simp [again, same]) same
  · have untouched := respelled
    rw [mark_of_not_writes wrote, spelled] at untouched
    cases untouched
    refine .kept (by simpa using wrote) ?_ rfl
    by_contra again
    simp only [rewrites, Row.respells, column, Bool.not_eq_false, Bool.and_eq_true, bne_iff_ne] at again
    refine wrote (writes_iff.mpr ⟨?_, Membership.selects_iff.mp again.1⟩)
    rw [column]
    exact fun same => again.2.2 (Cell.integer.inj same)

theorem transitions_cons : Record.transitions (r :: before) (s :: after) =
    Record.transitions before after + if r.status = s.status then 0 else 1 := by
  rw [Record.transitions, List.zip_cons_cons, List.countP_cons]
  by_cases same : r.status = s.status <;> simp [same, Record.transitions]

/-- The rows that are written are those whose record changes and those that are written again. -/
theorem countP_writes (spells : Spells rows before)
    (respells : Spells (rows.map (mark now listed membership status)) after) :
    rows.countP (writes listed membership status) =
      Record.transitions before after + rows.countP (rewrites listed membership status) := by
  induction spells generalizing after with
  | nil =>
    cases respells
    rfl
  | cons here _ ih =>
    cases respells with
    | cons here' others =>
      rw [List.countP_cons, List.countP_cons, transitions_cons, ih others]
      cases fate here here' with
      | changed wrote rewrote differs => simp [wrote, rewrote, differs, Nat.add_right_comm]
      | stamped wrote rewrote same => simp [wrote, rewrote, same, Nat.add_assoc]
      | kept wrote rewrote same => simp [wrote, rewrote, same]

/-- Where no row is written again, a record whose status does not change does not change at all. -/
theorem eq_of_same_status (spells : Spells rows before)
    (respells : Spells (rows.map (mark now listed membership status)) after)
    (never : ∀ row ∈ rows, rewrites listed membership status row = false) :
    ∀ pair ∈ before.zip after, pair.1.status = pair.2.status → pair.2 = pair.1 := by
  induction spells generalizing after with
  | nil => simp
  | cons here _ ih =>
    cases respells with
    | cons here' others =>
      obtain ⟨first, rest⟩ := List.forall_mem_cons.mp never
      rw [List.zip_cons_cons]
      refine List.forall_mem_cons.mpr ⟨fun same => ?_, ih others rest⟩
      cases fate here here' with
      | changed _ _ differs => exact absurd same differs
      | stamped _ rewrote => cases first.symm.trans rewrote
      | kept _ _ eq => exact eq

theorem uniform_iff : t.Uniform listed membership status ↔
    ∀ row ∈ t.rows, rewrites listed membership status row = false := by
  refine forall₂_congr fun row _ => ?_
  rw [rewrites, Bool.and_eq_false_imp, Membership.selects_iff]

/-! ## Rows that only the store has written -/

def Canonical (t : Table) : Prop := ∀ row ∈ t.rows, row.Canonical

theorem Canonical.uniform (canonical : t.Canonical) (listed : List String) (membership : Membership)
    (status : Status) : t.Uniform listed membership status :=
  fun row member _ => (canonical row member).not_respells status

theorem Canonical.update (canonical : t.Canonical) (now : Instant) (listed : List String)
    (membership : Membership) (status : Status) :
    (t.update now listed membership status).2.Canonical := by
  intro row member
  obtain ⟨old, present, -, -, eq⟩ := row_of_update member
  split at eq
  · exact ⟨status, eq⟩
  · rw [Row.Canonical, eq]
    exact canonical old present

theorem Canonical.add (canonical : t.Canonical) (own : row.Canonical) : (t.add row).Canonical := by
  intro other member
  rcases mem_add.mp member with rfl | old
  · exact own
  · exact canonical other old

end Table

namespace Database

/-- Nobody writes a row past the store. -/
def Incident.IsOwn : Incident → Prop
  | .insert .. => False
  | _ => True

/-- The rows of the table, if there is one, hold just the numbers that the store writes. -/
def Canonical (db : Database) : Prop := ∀ t, db.table = some t → t.Canonical

theorem Canonical.happen (canonical : db.Canonical) {incident : Incident} (own : incident.IsOwn) :
    (incident.happen db).Canonical := by
  intro t' after
  have effect := db.happen_effect incident
  rw [after] at effect
  generalize after' : some t' = table at effect
  cases effect with
  | kept => exact canonical t' after'.symm
  | created held now name address status =>
    cases after'
    exact (canonical _ held).add ⟨status, rfl⟩
  | @updated _ t u held =>
    cases after'
    exact (canonical t held).update u.now u.listed u.membership u.status
  | lost => cases after'
  | renewed =>
    cases after'
    exact List.forall_mem_nil _
  | inserted => exact own.elim

/-- **Rows that only the store has written are canonical**, whatever is asked of it and whether or not it
succeeds. -/
theorem canonical_after {incidents : List Incident} (canonical : db.Canonical)
    (own : ∀ incident ∈ incidents, incident.IsOwn) : (db.after incidents).Canonical := by
  induction incidents generalizing db with
  | nil => exact canonical
  | cons incident rest ih =>
    obtain ⟨first, others⟩ := List.forall_mem_cons.mp own
    exact ih (canonical.happen first) others

end Database

/-- **What a count tells.** An update of servers that can be listed returns the number of records whose status
changes and, besides, the number of rows that are written again. These are two different numbers unless every
row that the update is for and that is read as the status holds the number of the status; then no other
record changes at all. It is so whenever servers are put down, and in every database whose rows only the store
has written, whatever else has become of it. -/
theorem count_tells_transitions (held : db.table = some t) (read : db.list.1 = .ok before)
    (succeeds : db.setStatusFailing fails now listed membership status = (.ok count, db')) :
    (now.HasPlainYear → ∃ after, db'.list.1 = .ok after) ∧
      (∀ after, db'.list.1 = .ok after →
        count = Record.transitions before after + t.rows.countP (Table.rewrites listed membership status) ∧
        (count = Record.transitions before after ↔ t.Uniform listed membership status) ∧
        (t.Uniform listed membership status →
          ∀ pair ∈ before.zip after, pair.1.status = pair.2.status → pair.2 = pair.1)) ∧
      (status = .down → t.Uniform listed membership status) ∧
      ∀ (fresh : Database) (incidents : List Database.Incident), fresh.table = some {} →
        (∀ incident ∈ incidents, incident.IsOwn) → db = fresh.after incidents →
        t.Uniform listed membership status := by
  rw [Database.list_eq held] at read
  rcases db.setStatusFailing_ends fails now listed membership status with
    ⟨_, _, -, eq⟩ | ⟨-, t₀, held₀, eq⟩
  · cases succeeds.symm.trans eq
  cases held₀.symm.trans held
  cases succeeds.symm.trans eq
  have spells : Table.Spells t.rows before := Table.list_eq_ok_iff.mp read
  refine ⟨fun plain => ?_, fun after reread => ?_, ?_, ?_⟩
  · rw [Database.list_eq rfl]
    exact ((Table.extends_update plain).legible spells.legible).list_eq
  · rw [Database.list_eq rfl] at reread
    have respells := Table.list_eq_ok_iff.mp reread
    have counted : (t.update now listed membership status).1 = _ := Table.countP_writes spells respells
    refine ⟨counted, ?_, fun uniform =>
      Table.eq_of_same_status spells respells (Table.uniform_iff.mp uniform)⟩
    rw [Table.uniform_iff]
    have none_iff : t.rows.countP (Table.rewrites listed membership status) = 0 ↔
        ∀ row ∈ t.rows, Table.rewrites listed membership status row = false := by
      simp only [List.countP_eq_zero, Bool.not_eq_true]
    rw [← none_iff, counted]
    exact Nat.add_eq_left
  · rintro rfl row - -
    exact row.not_respells_down
  · rintro fresh incidents empty own rfl
    have start : fresh.Canonical := by
      intro t' held'
      cases held'.symm.trans empty
      exact List.forall_mem_nil _
    exact (Database.canonical_after start own t held).uniform listed membership status

/-! ## A row that somebody else has put up -/

/-- A server that is up, by a number that the store does not write, and one that is down. -/
def foreign : Database where
  table := some ⟨[
    ⟨1, "a", "a", .integer 2, "2024-01-01T00:00:00Z", "2024-01-01T00:00:00Z"⟩,
    ⟨2, "b", "b", .integer 0, "2024-01-01T00:00:00Z", "2024-01-01T00:00:00Z"⟩], 2⟩

/-- Both are put up: two rows are written, but only one record changes its status. -/
theorem one_of_two_changes : ∃ t before after db', foreign.table = some t ∧ foreign.list.1 = .ok before ∧
    foreign.setStatusFailing (fun _ => false) .epoch ["a", "b"] .inside .up = (.ok 2, db') ∧
    db'.list.1 = .ok after ∧ Record.transitions before after = 1 ∧ ¬ t.Uniform ["a", "b"] .inside .up := by
  have succeeds : foreign.setStatusFailing (fun _ => false) .epoch ["a", "b"] .inside .up = (.ok 2, _) := rfl
  obtain ⟨-, tells, -⟩ := count_tells_transitions rfl rfl succeeds
  obtain ⟨counted, uniform, -⟩ := tells _ rfl
  have one : Record.transitions _ _ = 1 := Nat.add_right_cancel counted.symm
  exact ⟨_, _, _, _, rfl, rfl, rfl, rfl, one, fun holds => by cases (uniform.mpr holds).trans one⟩

/-- The server that was up is put up: its row is counted and stamped, but its record was up before. -/
theorem counted_although_up_before : ∃ before after db', foreign.list.1 = .ok before ∧
    foreign.setStatus .epoch ["a"] .inside .up = (.ok 1, db') ∧ db'.list.1 = .ok after ∧
    Record.transitions before after = 0 ∧
    ∃ pair ∈ before.zip after, pair.1.status = pair.2.status ∧ pair.2.lastUpdated ≠ pair.1.lastUpdated :=
  ⟨_, _, _, rfl, rfl, rfl, rfl, _, .head _, rfl, by decide⟩

end Store
end Heartbeat
