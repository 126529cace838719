import Mathlib.Data.List.Nodup
import Heartbeat.Proofs.Lists
import Heartbeat.Proofs.Time.Stamp
import Heartbeat.Store.Table

/-! The table seen through the addresses it holds. Each operation is described once, by what it
answers and by the rows it leaves; nothing behind this module opens the operations again. -/
namespace Heartbeat.Store.Table
open Heartbeat.Time (Instant)

variable {t : Table} {row other : Row} {address name : String} {status : Status} {now : Instant}

/-- The addresses of the rows, in the order of ids. -/
def addresses (t : Table) : List String := t.rows.map Row.address

theorem mem_addresses : address ∈ t.addresses ↔ ∃ row ∈ t.rows, row.address = address := by
  simp [addresses]

theorem taken_iff : t.taken address = true ↔ address ∈ t.addresses := by
  simp [taken, mem_addresses]

/-! ## Adding a row -/

theorem insertById_perm (row : Row) (rows : List Row) : (insertById row rows).Perm (row :: rows) := by
  induction rows with
  | nil => exact .refl _
  | cons first rest ih =>
    unfold insertById
    split
    · exact .refl _
    · exact (ih.cons first).trans (.swap row first rest)

/-- No row is lost or moved past another. -/
theorem rows_sublist_add (t : Table) (row : Row) : t.rows.Sublist (t.add row).rows := by
  suffices ∀ rows : List Row, rows.Sublist (insertById row rows) from this t.rows
  intro rows
  induction rows with
  | nil => exact List.nil_sublist _
  | cons first rest ih =>
    unfold insertById
    split
    · exact List.sublist_cons_self _ _
    · exact ih.cons_cons first

theorem mem_add : other ∈ (t.add row).rows ↔ other = row ∨ other ∈ t.rows :=
  (insertById_perm row t.rows).mem_iff.trans List.mem_cons

theorem addresses_add : (t.add row).addresses.Perm (row.address :: t.addresses) :=
  (insertById_perm row t.rows).map Row.address

theorem nodup_add (unique : t.addresses.Nodup) (fresh : row.address ∉ t.addresses) :
    (t.add row).addresses.Nodup :=
  addresses_add.nodup_iff.mpr (List.nodup_cons.mpr ⟨fresh, unique⟩)

/-- What a creation comes to: no id is left, the address is taken, or there is one more row. -/
theorem create_cases (t : Table) (now : Instant) (name address : String) (status : Status) :
    (t.create now name address status = .error (.database .createServer) ∧
      t.lastId = Int64.maxValue) ∨
    (t.create now name address status = .error (.conflict address) ∧ address ∈ t.addresses) ∨
    (t.create now name address status =
        .ok (⟨t.lastId + 1, name, address, status, now, now⟩, t.add (t.newRow now name address status)) ∧
      address ∉ t.addresses) := by
  unfold create
  by_cases full : t.lastId = Int64.maxValue
  · exact .inl ⟨if_pos full, full⟩
  · rw [if_neg full]
    by_cases taken : address ∈ t.addresses
    · exact .inr (.inl ⟨if_pos (taken_iff.mpr taken), taken⟩)
    · exact .inr (.inr ⟨if_neg fun held => taken (taken_iff.mp held), taken⟩)

theorem room_of_create {t' : Table} {r : Record}
    (created : t.create now name address status = .ok (r, t')) : t.lastId ≠ Int64.maxValue := by
  intro full
  rw [create, if_pos full] at created
  cases created

/-- What becomes of a row that somebody else wants to add: it is refused, or it stands there in the end, and
neither its id nor its address was there before. -/
theorem addForeign_cases {id nameCell addressCell statusCell createdAt updatedAt : Option Cell} :
    t.addForeign id nameCell addressCell statusCell createdAt updatedAt = none ∨
      ∃ row, row.address ∉ t.addresses ∧ (∀ other ∈ t.rows, other.id ≠ row.id) ∧
        t.addForeign id nameCell addressCell statusCell createdAt updatedAt = some (t.add row) := by
  cases added : t.addForeign id nameCell addressCell statusCell createdAt updatedAt with
  | none => exact .inl rfl
  | some t' =>
    simp only [addForeign, Option.bind_eq_bind, Option.bind_eq_some_iff] at added
    obtain ⟨_, -, _, -, _, -, _, -, _, -, _, -, placed⟩ := added
    split at placed
    · cases placed
    · rename_i new
      rw [Bool.or_eq_true, not_or] at new
      cases placed
      refine .inr ⟨_, fun member => new.1 (taken_iff.mpr member), fun other member same => ?_, rfl⟩
      exact new.2 (List.any_eq_true.mpr ⟨other, member, beq_iff_eq.mpr same⟩)

/-! ## Looking up -/

theorem row?_eq_none : t.row? address = none ↔ address ∉ t.addresses := by
  simp [row?, mem_addresses]

theorem mem_of_row? (found : t.row? address = some row) : row ∈ t.rows ∧ row.address = address :=
  ⟨List.mem_of_find?_eq_some found, by simpa using List.find?_some found⟩

/-- In a table without repeated addresses the row of an address is the only one. -/
theorem eq_of_address (unique : t.addresses.Nodup) (left : row ∈ t.rows) (right : other ∈ t.rows)
    (same : row.address = other.address) : row = other :=
  List.inj_on_of_nodup_map unique left right same

/-- What a search comes to: no row, a row that is no record, or the record of a row. -/
theorem find_cases (t : Table) (address : String) :
    (t.find address = .ok none ∧ address ∉ t.addresses) ∨
    (∃ row ∈ t.rows, row.address = address ∧ row.record? = none ∧
      t.find address = .error (.database .queryServer)) ∨
    ∃ row ∈ t.rows, row.address = address ∧ ∃ record, row.record? = some record ∧
      t.find address = .ok (some record) := by
  unfold find
  cases found : t.row? address with
  | none => exact .inl ⟨rfl, row?_eq_none.mp found⟩
  | some row =>
    obtain ⟨member, named⟩ := mem_of_row? found
    cases spelled : row.record? with
    | none => exact .inr (.inl ⟨row, member, named, spelled, by simp [spelled]⟩)
    | some record => exact .inr (.inr ⟨row, member, named, record, spelled, by simp [spelled]⟩)

/-- A record has the columns of the row that spells it. -/
theorem columns_of_record {record : Record} (spelled : row.record? = some record) :
    record.id = row.id ∧ record.name = row.name ∧ record.address = row.address ∧
      Instant.readStrict row.createdAt = .ok record.createdAt := by
  unfold Row.record? at spelled
  split at spelled
  · rename_i created _ created_eq _
    cases spelled
    exact ⟨rfl, rfl, rfl, created_eq⟩
  · cases spelled

/-- The row of a new server spells the record that its creator is given. -/
theorem record_newRow (plain : now.HasPlainYear) : (t.newRow now name address status).record? =
    some ⟨t.lastId + 1, name, address, status, now, now⟩ := by
  simp [newRow, Row.record?, Instant.readStrict_renderOffset plain]

/-! ## Listing -/

/-- The rows spell these records, one by one. -/
def Spells (rows : List Row) (records : List Record) : Prop :=
  List.Forall₂ (fun row r => row.record? = some r) rows records

theorem mapM_eq_some_iff {rows : List Row} {records : List Record} :
    rows.mapM Row.record? = some records ↔ Spells rows records := by
  induction rows generalizing records with
  | nil => simp [Spells, eq_comm]
  | cons row rest ih =>
    simp only [List.mapM_cons, Option.bind_eq_bind, Option.bind_eq_some_iff, Option.pure_def, ih,
      Option.some.injEq]
    constructor
    · rintro ⟨_, here, _, others, rfl⟩
      exact .cons here others
    · rintro (_ | ⟨here, others⟩)
      exact ⟨_, here, _, others, rfl⟩

/-- A table can be listed just if its rows spell records. -/
theorem list_eq_ok_iff {records : List Record} : t.list = .ok records ↔ Spells t.rows records := by
  rw [← mapM_eq_some_iff, list]
  split <;> simp [*]

end Heartbeat.Store.Table
