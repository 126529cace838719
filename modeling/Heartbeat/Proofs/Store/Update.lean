import Mathlib.Data.List.Basic
import Heartbeat.Proofs.Store.Table
import Heartbeat.Store.Database

/-! Bulk status updates. A transaction that runs to its end has written the status to every selected
row, and one that does not has written nothing: the temporary table holds just the addresses it was
given, whatever was left in it before. -/
namespace Heartbeat.Store
open Heartbeat.Time (Instant)

/-- The address is one of those that an update with these arguments is for. -/
def Membership.IsFor : Membership → List String → String → Prop
  | .inside, listed, address => address ∈ listed
  | .outside, listed, address => address ∉ listed

theorem Membership.selects_iff {membership : Membership} {listed : List String} {address : String} :
    membership.selects listed address = true ↔ membership.IsFor listed address := by
  cases membership <;> simp [selects, IsFor]

namespace Table

variable {t : Table} {row : Row} {now : Instant} {window other : List String}
  {membership : Membership} {status : Status}

/-! ## What an update makes of a row -/

/-- The row that an update makes of a row. -/
def mark (now : Instant) (listed : List String) (membership : Membership) (status : Status) (row : Row) :
    Row :=
  if writes listed membership status row then written now status row else row

theorem writes_iff : writes window membership status row = true ↔
    row.status ≠ .integer status.toColumn ∧ membership.IsFor window row.address := by
  rw [writes, Bool.and_eq_true, bne_iff_ne, Membership.selects_iff]

theorem mark_of_writes (wrote : writes window membership status row = true) :
    mark now window membership status row = written now status row := if_pos wrote

theorem mark_of_not_writes (unwritten : ¬ writes window membership status row = true) :
    mark now window membership status row = row := if_neg unwritten

@[simp] theorem id_mark : (mark now window membership status row).id = row.id := by
  unfold mark
  split <;> rfl

@[simp] theorem address_mark : (mark now window membership status row).address = row.address := by
  unfold mark
  split <;> rfl

theorem status_mark : (mark now window membership status row).status =
    if membership.selects window row.address then .integer status.toColumn else row.status := by
  by_cases wrote : writes window membership status row = true
  · have selected := Membership.selects_iff.mpr (writes_iff.mp wrote).2
    rw [mark_of_writes wrote, if_pos selected]
    rfl
  · rw [mark_of_not_writes wrote]
    split
    · rename_i selected
      by_contra differs
      exact wrote (writes_iff.mpr ⟨differs, Membership.selects_iff.mp selected⟩)
    · rfl

/-! ## What an update makes of a table -/

theorem rows_update : (t.update now window membership status).2.rows =
    t.rows.map (mark now window membership status) := rfl

theorem mem_update : row ∈ (t.update now window membership status).2.rows ↔
    ∃ old ∈ t.rows, mark now window membership status old = row := List.mem_map

theorem addresses_update : (t.update now window membership status).2.addresses = t.addresses := by
  rw [addresses, rows_update, List.map_map]
  exact List.map_congr_left fun _ _ => address_mark

/-- A row after an update: a selected one holds the status, and any other is as it was. -/
theorem row_of_update (member : row ∈ (t.update now window membership status).2.rows) :
    ∃ old ∈ t.rows, row.id = old.id ∧ row.address = old.address ∧
      if membership.selects window row.address then row.status = .integer status.toColumn
      else row.status = old.status := by
  obtain ⟨old, present, rfl⟩ := mem_update.mp member
  refine ⟨old, present, id_mark, address_mark, ?_⟩
  rw [address_mark, status_mark]
  split <;> rfl

/-- An update looks only at which of the rows' addresses are in its set. -/
theorem update_congr (same : ∀ address ∈ t.addresses, address ∈ window ↔ address ∈ other) :
    t.update now window membership status = t.update now other membership status := by
  have writes_eq (row : Row) (member : row ∈ t.rows) :
      writes window membership status row = writes other membership status row := by
    have inside := same row.address (List.mem_map_of_mem member)
    rw [Bool.eq_iff_iff, writes_iff, writes_iff]
    cases membership <;> simp only [Membership.IsFor, inside]
  refine Prod.ext (List.countP_congr fun row member => by rw [writes_eq row member]) ?_
  refine congrArg (Table.mk · t.lastId) (List.map_congr_left fun row member => ?_)
  simp only [writes_eq row member]

end Table

namespace Database

variable {db : Database} {t : Table} {now : Instant} {addresses : List String}
  {membership : Membership} {status : Status} {fails : Nat → Bool}

theorem find_eq (held : db.table = some t) (address : String) : db.find address = (t.find address, db) := by
  simp only [find, held]

theorem list_eq (held : db.table = some t) : db.list.1 = t.list := by
  simp only [list, held]

/-- Loading addresses adds them to the temporary table and changes nothing else. -/
private theorem runStatements_load (db : Database) (held : db.table = some t) (addresses : List String)
    (rest : List Statement) (index count : Nat) :
    (∃ activity, runStatements now membership status fails index (addresses.map .load ++ rest)
      (count, db) = .error activity) ∨
    ∃ window, (∀ address, address ∈ window ↔ address ∈ db.window ∨ address ∈ addresses) ∧
      runStatements now membership status fails index (addresses.map .load ++ rest) (count, db) =
        runStatements now membership status fails (index + addresses.length) rest
          (count, { db with window }) := by
  induction addresses generalizing index db with
  | nil => exact .inr ⟨db.window, by simp, rfl⟩
  | cons first others ih =>
    simp only [List.map_cons, List.cons_append, runStatements, execute]
    split
    · exact .inl ⟨_, rfl⟩
    · split
      · rename_i known
        rcases ih db held (index + 1) with ⟨activity, eq⟩ | ⟨window, mem, eq⟩
        · exact .inl ⟨activity, eq⟩
        · refine .inr ⟨window, fun address => ?_, by rw [eq, List.length_cons]; congr 1; omega⟩
          rw [mem, List.mem_cons]
          have : address = first → address ∈ db.window := by
            rintro rfl; simpa using known
          tauto
      · rcases ih { db with window := first :: db.window } held (index + 1) with
          ⟨activity, eq⟩ | ⟨window, mem, eq⟩
        · exact .inl ⟨activity, eq⟩
        · refine .inr ⟨window, fun address => ?_, by rw [eq, List.length_cons]; congr 1; omega⟩
          rw [mem, List.mem_cons, List.mem_cons]
          tauto

/-- The statements of an update either fail, or leave the selected rows written. -/
private theorem runStatements_update (held : db.table = some t) (fails : Nat → Bool) :
    (∃ activity, runStatements now membership status fails 0 (statements addresses) (0, db) =
      .error activity) ∨
    runStatements now membership status fails 0 (statements addresses) (0, db) =
      .ok ((t.update now addresses membership status).1,
        { db with table := some (t.update now addresses membership status).2, window := [] }) := by
  simp only [statements, List.cons_append, List.nil_append, runStatements, execute]
  iterate 3 (split; · exact .inl ⟨_, rfl⟩)
  rcases runStatements_load { db with window := [] } held addresses
    [.update, .clear, .commit] 3 0 with ⟨activity, eq⟩ | ⟨window, mem, eq⟩
  · exact .inl ⟨activity, eq⟩
  · have same : t.update now window membership status = t.update now addresses membership status :=
      Table.update_congr fun address _ => by simp [mem]
    rw [eq]
    simp only [runStatements, execute, held, Option.bind_eq_bind, Option.bind_some, Option.pure_def, same]
    iterate 3 (split; · exact .inl ⟨_, rfl⟩)
    exact .inr rfl

/-- **A bulk update is all or nothing.** Wherever its statements fail, the table is either the one with
the status written to every selected row, or the one before. -/
theorem setStatusFailing_cases (held : db.table = some t) (fails : Nat → Bool) (now : Instant)
    (addresses : List String) (membership : Membership) (status : Status) :
    (∃ activity, db.setStatusFailing fails now addresses membership status =
      (.error (.database activity), db.touched)) ∨
    db.setStatusFailing fails now addresses membership status =
      (.ok (t.update now addresses membership status).1,
        { db with table := some (t.update now addresses membership status).2, window := [] }) := by
  unfold setStatusFailing
  rcases runStatements_update held fails with ⟨activity, eq⟩ | eq
  · exact .inl ⟨activity, by rw [eq]⟩
  · exact .inr (by rw [eq])

end Database
end Heartbeat.Store
