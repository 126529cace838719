import Heartbeat.Proofs.Store.Identity
import Heartbeat.Proofs.Store.Rollback

/-! What a bulk status update leaves, row by row. Which rows it is for depends on nothing but which addresses
are listed; those hold the status afterwards, and all others are the rows they were. That an update can be
repeated for nothing, and that the two updates of a sweep may change places, follows from what one row
becomes. -/
namespace Heartbeat.Store
open Heartbeat.Time (Instant)

variable {membership : Membership} {listed other : List String} {address : String} {status : Status}
  {now later : Instant} {row : Row} {t : Table} {db db' : Database} {count : Nat} {fails : Nat → Bool}

/-- What an update at some time makes of a row. -/
structure Row.Marked (now : Instant) (listed : List String) (membership : Membership) (status : Status)
    (old new : Row) : Prop where
  alike : new.Alike old
  chosen : membership.IsFor listed old.address → new.status = .integer status.toColumn
  spared : ¬ membership.IsFor listed old.address ∨ old.status = .integer status.toColumn → new = old
  stamped : new ≠ old → new.updatedAt = now.renderOffset

/-- Two rows are of the same server, in the same status, whenever that was written. -/
structure Row.SameStatus (row other : Row) : Prop where
  alike : row.Alike other
  status : row.status = other.status

namespace Table

/-! ## One row -/

theorem marked_mark : row.Marked now listed membership status (mark now listed membership status row) where
  alike := mark_alike
  chosen selected := by rw [status_mark, if_pos (Membership.selects_iff.mpr selected)]
  spared reason := by
    refine mark_of_not_writes fun wrote => ?_
    obtain ⟨differs, selected⟩ := writes_iff.mp wrote
    exact reason.elim (absurd selected) (absurd · differs)
  stamped changed := by
    by_cases wrote : writes listed membership status row = true
    · rw [mark, if_pos wrote]
      rfl
    · exact absurd (mark_of_not_writes wrote) changed

/-- What an update has marked, the same update does not write again. -/
theorem not_writes_mark :
    ¬ writes listed membership status (mark now listed membership status row) = true := by
  intro wrote
  obtain ⟨differs, selected⟩ := writes_iff.mp wrote
  rw [mark_alike.address] at selected
  exact differs (marked_mark.chosen selected)

/-- The status that a sweep leaves a server in, by whether it was seen. -/
def sweptStatus (window : List String) (address : String) : Status :=
  if address ∈ window then .up else .down

/-- A row on which both updates of a sweep were made, the first one first. -/
theorem status_up_down : (mark later listed .outside .down (mark now listed .inside .up row)).status =
    .integer (sweptStatus listed row.address).toColumn := by
  rw [status_mark, status_mark, mark_alike.address]
  by_cases seen : row.address ∈ listed <;> simp [Membership.selects, sweptStatus, seen]

/-- A row on which both updates of a sweep were made, the second one first. -/
theorem status_down_up : (mark later listed .inside .up (mark now listed .outside .down row)).status =
    .integer (sweptStatus listed row.address).toColumn := by
  rw [status_mark, status_mark, mark_alike.address]
  by_cases seen : row.address ∈ listed <;> simp [Membership.selects, sweptStatus, seen]

/-! ## All rows -/

theorem marked_update : List.Forall₂ (Row.Marked now listed membership status) t.rows
    (t.update now listed membership status).2.rows := by
  rw [rows_update, List.forall₂_map_right_iff]
  exact List.forall₂_same.mpr fun _ _ => marked_mark

/-- An update leaves each row its server. -/
theorem alike_update : List.Forall₂ Row.Alike t.rows (t.update now listed membership status).2.rows :=
  marked_update.imp fun _ _ marked => marked.alike.symm

/-- An update writes no more rows than it is for. -/
theorem written_le : (t.update now listed membership status).1 ≤
    t.addresses.countP (membership.selects listed) := by
  rw [addresses, List.countP_map]
  refine List.countP_mono_left fun row _ wrote => ?_
  exact Membership.selects_iff.mpr (writes_iff.mp wrote).2

/-- An update that has nothing to write leaves the table alone. -/
theorem update_of_not_writes (settled : ∀ row ∈ t.rows, ¬ writes listed membership status row = true) :
    t.update now listed membership status = (0, t) := by
  have unmarked : t.rows.map (mark now listed membership status) = t.rows :=
    (List.map_congr_left fun row member => mark_of_not_writes (settled row member)).trans (List.map_id _)
  exact Prod.ext (List.countP_eq_zero.mpr settled) (congrArg (Table.mk · t.lastId) unmarked)

/-- The same update once more has nothing to write. -/
theorem update_update : (t.update now listed membership status).2.update later listed membership status =
    (0, (t.update now listed membership status).2) := by
  refine update_of_not_writes fun row member => ?_
  obtain ⟨old, -, rfl⟩ := List.mem_map.mp member
  exact not_writes_mark

/-- **Either update of a sweep may come first.** -/
theorem updates_commute (t : Table) (listed : List String) (first second first' second' : Instant) :
    List.Forall₂ Row.SameStatus
      ((t.update first listed .inside .up).2.update second listed .outside .down).2.rows
      ((t.update first' listed .outside .down).2.update second' listed .inside .up).2.rows := by
  simp only [rows_update, List.map_map, List.forall₂_map_left_iff, List.forall₂_map_right_iff]
  refine List.forall₂_same.mpr fun row _ => ⟨?_, status_up_down.trans status_down_up.symm⟩
  exact (mark_alike.trans mark_alike).trans (mark_alike.trans mark_alike).symm

end Table

/-- **A bulk update is framed.** An update that succeeds leaves the same rows in the same order: those it is for
hold the status, and those it is not for, or that held the status already, are as they were in every
column. It depends only on which of the rows' addresses are listed; with an empty list it is for no row, or for
every row; made again it writes nothing; and the two updates of a sweep reach the same statuses in either
order. -/
theorem update_is_framed (held : db.table = some t)
    (succeeds : db.setStatusFailing fails now listed membership status = (.ok count, db')) :
    ∃ t', db'.table = some t' ∧ t'.lastId = t.lastId ∧
      List.Forall₂ (Row.Marked now listed membership status) t.rows t'.rows ∧
      (∀ other, (∀ address ∈ t.addresses, address ∈ listed ↔ address ∈ other) →
        db.setStatus now other membership status = (.ok count, db')) ∧
      (listed = [] → membership = .inside → count = 0 ∧ t' = t) ∧
      (listed = [] → membership = .outside → ∀ row ∈ t'.rows, row.status = .integer status.toColumn) ∧
      (∀ later, db'.setStatus later listed membership status = (.ok 0, db')) ∧
      ∀ first second first' second', ∃ one other,
        ((db.setStatus first listed .inside .up).2.setStatus second listed .outside .down).2.table =
            some one ∧
          ((db.setStatus first' listed .outside .down).2.setStatus second' listed .inside .up).2.table =
            some other ∧
          List.Forall₂ Row.SameStatus one.rows other.rows := by
  rcases db.setStatusFailing_ends fails now listed membership status with
    ⟨index, statement, -, eq⟩ | ⟨-, t₀, held₀, eq⟩
  · cases succeeds.symm.trans eq
  cases held₀.symm.trans held
  cases succeeds.symm.trans eq
  refine ⟨_, rfl, rfl, Table.marked_update, fun other same => ?_, ?_, ?_, fun later => ?_, ?_⟩
  · rw [Database.setStatus_of_table held, ← Table.update_congr same]
  · rintro rfl rfl
    have settled : ∀ row ∈ t.rows, ¬ Table.writes [] .inside status row = true := by
      simp [Table.writes, Membership.selects]
    rw [Table.update_of_not_writes settled]
    exact ⟨rfl, rfl⟩
  · rintro rfl rfl row member
    obtain ⟨old, -, rfl⟩ := List.mem_map.mp member
    exact Table.marked_mark.chosen List.not_mem_nil
  · rw [Database.setStatus_of_table rfl, Table.update_update]
  · intro first second first' second'
    rw [Database.setStatus_of_table held, Database.setStatus_of_table held]
    exact ⟨_, _, by rw [Database.setStatus_of_table rfl], by rw [Database.setStatus_of_table rfl],
      t.updates_commute listed first second first' second'⟩

/-- Two of the listed addresses are one, and another has no row: one server goes up, and nothing else happens
before or after. -/
theorem listed_server_goes_up : ∃ t db', Database.pair.table = some t ∧
    Database.pair.setStatusFailing (fun _ => false) .epoch ["z", "a", "a"] .inside .up = (.ok 1, db') ∧
    Database.pair.setStatus .epoch ["a"] .inside .up = (.ok 1, db') ∧
    ∀ later, db'.setStatus later ["z", "a", "a"] .inside .up = (.ok 0, db') := by
  have succeeds : Database.pair.setStatusFailing (fun _ => false) .epoch ["z", "a", "a"] .inside .up =
      (.ok 1, _) := rfl
  obtain ⟨-, -, -, -, alike, -, -, again, -⟩ := update_is_framed rfl succeeds
  exact ⟨_, _, rfl, succeeds, alike ["a"] (by decide), again⟩

end Heartbeat.Store
