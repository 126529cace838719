import Heartbeat.Proofs.Store.Update

/-! The columns that say which server a row is: id, name, address and the time of its creation. Nothing that
is ever asked of the store changes them in a row or takes a row away, so a record that was once read from a
row keeps naming the same server, whatever has become of the row's status since. -/
namespace Heartbeat.Store
open Heartbeat.Time (Instant)

/-- Two rows are of the same server. -/
structure Row.Alike (row other : Row) : Prop where
  id : row.id = other.id
  name : row.name = other.name
  address : row.address = other.address
  createdAt : row.createdAt = other.createdAt

theorem Row.Alike.refl (row : Row) : row.Alike row := ⟨rfl, rfl, rfl, rfl⟩

theorem Row.Alike.symm {row other : Row} (alike : row.Alike other) : other.Alike row :=
  ⟨alike.id.symm, alike.name.symm, alike.address.symm, alike.createdAt.symm⟩

theorem Row.Alike.trans {row other third : Row} (first : row.Alike other) (second : other.Alike third) :
    row.Alike third :=
  ⟨first.id.trans second.id, first.name.trans second.name, first.address.trans second.address,
    first.createdAt.trans second.createdAt⟩

/-- A row can be read as a record. -/
def Row.Legible (row : Row) : Prop := ∃ record, row.record? = some record

/-- Whether a row can be read depends on its creation and on the columns that updates write. -/
theorem Row.legible_iff {row : Row} : row.Legible ↔ (∃ n, row.status = .integer n) ∧
    (∃ created, Instant.readStrict row.createdAt = .ok created) ∧
      ∃ updated, Instant.readStrict row.updatedAt = .ok updated := by
  unfold Legible record?
  constructor
  · rintro ⟨record, spelled⟩
    split at spelled
    · rename_i n created updated status created_eq updated_eq
      exact ⟨⟨n, status⟩, ⟨created, created_eq⟩, updated, updated_eq⟩
    · cases spelled
  · rintro ⟨⟨n, status⟩, ⟨created, created_eq⟩, updated, updated_eq⟩
    simp [status, created_eq, updated_eq]

namespace Table

variable {t t' t'' : Table} {row : Row} {record : Record} {address name : String} {status : Status}
  {now : Instant} {window : List String} {membership : Membership}

def Legible (t : Table) : Prop := ∀ row ∈ t.rows, row.Legible

theorem Spells.legible {rows : List Row} {records : List Record} (spells : Spells rows records) :
    ∀ row ∈ rows, row.Legible := by
  induction spells with
  | nil => exact List.forall_mem_nil _
  | cons here _ ih => exact List.forall_mem_cons.mpr ⟨⟨_, here⟩, ih⟩

/-- A table can be listed if all its rows can be read. -/
theorem Legible.list_eq (legible : t.Legible) : ∃ records, t.list = .ok records := by
  simp only [list_eq_ok_iff]
  unfold Legible at legible
  generalize t.rows = rows at legible ⊢
  induction rows with
  | nil => exact ⟨[], .nil⟩
  | cons row rest ih =>
    obtain ⟨⟨r, here⟩, others⟩ := List.forall_mem_cons.mp legible
    obtain ⟨records, spells⟩ := ih others
    exact ⟨r :: records, .cons here spells⟩

/-- One row that cannot be read spoils the list, and nothing else does. -/
theorem listable_iff : (∃ records, t.list = .ok records) ↔ t.Legible := by
  constructor
  · rintro ⟨records, listed⟩
    exact (list_eq_ok_iff.mp listed).legible
  · exact Legible.list_eq

/-- The table has a row of the record's server. -/
def Holds (t : Table) (record : Record) : Prop :=
  ∃ row ∈ t.rows, row.id = record.id ∧ row.name = record.name ∧ row.address = record.address ∧
    Instant.readStrict row.createdAt = .ok record.createdAt

/-- A record that a row spells is held by its table. -/
theorem holds_of_record (member : row ∈ t.rows) (spelled : row.record? = some record) :
    t.Holds record := by
  obtain ⟨id_eq, name_eq, address_eq, created_eq⟩ := columns_of_record spelled
  exact ⟨row, member, id_eq.symm, name_eq.symm, address_eq.symm, created_eq⟩

/-- Records that differ in status and last update only are held alike. -/
theorem Holds.refresh (holds : t.Holds record) (status : Status) (lastUpdated : Instant) :
    t.Holds { record with status, lastUpdated } := holds

/-- What a table has become, if every server kept its row and the rows are as good as before. -/
structure Extends (t t' : Table) : Prop where
  kept : ∀ row ∈ t.rows, ∃ row' ∈ t'.rows, row'.Alike row
  unique : t.addresses.Nodup → t'.addresses.Nodup
  legible : t.Legible → t'.Legible

theorem Extends.refl (t : Table) : t.Extends t := ⟨fun row member => ⟨row, member, .refl row⟩, id, id⟩

theorem Extends.trans (first : t.Extends t') (second : t'.Extends t'') : t.Extends t'' where
  kept row member := by
    obtain ⟨row', member', alike'⟩ := first.kept row member
    obtain ⟨row'', member'', alike''⟩ := second.kept row' member'
    exact ⟨row'', member'', alike''.trans alike'⟩
  unique := second.unique ∘ first.unique
  legible := second.legible ∘ first.legible

theorem Holds.extend (holds : t.Holds record) (extended : t.Extends t') : t'.Holds record := by
  obtain ⟨row, member, id_eq, name_eq, address_eq, created_eq⟩ := holds
  obtain ⟨row', member', alike⟩ := extended.kept row member
  exact ⟨row', member', alike.id.trans id_eq, alike.name.trans name_eq, alike.address.trans address_eq,
    alike.createdAt ▸ created_eq⟩

/-- A new server leaves the others their rows. -/
theorem extends_add (plain : now.HasPlainYear) (fresh : address ∉ t.addresses) (name : String)
    (status : Status) : t.Extends (t.add (t.newRow now name address status)) where
  kept row member := ⟨row, mem_add.mpr (.inr member), .refl row⟩
  unique unique := nodup_add unique fresh
  legible legible row member := by
    rcases mem_add.mp member with rfl | old
    · exact ⟨_, record_newRow plain⟩
    · exact legible row old

/-- The record that its creator is given is held by the table with the new row. -/
theorem holds_newRow (plain : now.HasPlainYear) (name address : String) (status : Status) :
    (t.add (t.newRow now name address status)).Holds
      ⟨t.lastId + 1, name, address, status, now, now⟩ :=
  holds_of_record (mem_add.mpr (.inl rfl)) (record_newRow plain)

/-- A row that is marked stays the same server's. -/
theorem mark_alike : (mark now window membership status row).Alike row := by
  unfold mark
  split
  · exact ⟨rfl, rfl, rfl, rfl⟩
  · exact .refl row

theorem mark_legible (plain : now.HasPlainYear) (legible : row.Legible) :
    (mark now window membership status row).Legible := by
  unfold mark
  split
  · obtain ⟨-, created, -⟩ := Row.legible_iff.mp legible
    exact Row.legible_iff.mpr ⟨⟨_, rfl⟩, created, now, Instant.readStrict_renderOffset plain⟩
  · exact legible

/-- A status update leaves every server its row. -/
theorem extends_update (plain : now.HasPlainYear) :
    t.Extends (t.update now window membership status).2 where
  kept row member := ⟨_, mem_update.mpr ⟨row, member, rfl⟩, mark_alike⟩
  unique unique := by rwa [addresses_update]
  legible legible row member := by
    obtain ⟨old, present, rfl⟩ := mem_update.mp member
    exact mark_legible plain (legible old present)

/-- In a table that repeats no address and can be read, a search finds the server of any record that the
table holds. -/
theorem find_of_holds (unique : t.addresses.Nodup) (legible : t.Legible) (holds : t.Holds record) :
    ∃ found, t.find record.address = .ok (some found) ∧ found.id = record.id ∧
      found.name = record.name ∧ found.address = record.address ∧
      found.createdAt = record.createdAt := by
  obtain ⟨row, member, id_eq, name_eq, address_eq, created_eq⟩ := holds
  rcases t.find_cases record.address with ⟨-, fresh⟩ | ⟨other, present, -, spelled, -⟩ |
    ⟨other, present, named, found, spelled, eq⟩
  · exact absurd (mem_addresses.mpr ⟨row, member, address_eq⟩) fresh
  · obtain ⟨_, read⟩ := legible other present
    cases spelled.symm.trans read
  · obtain rfl : other = row := eq_of_address unique present member (named.trans address_eq.symm)
    obtain ⟨id_eq', name_eq', address_eq', created_eq'⟩ := columns_of_record spelled
    refine ⟨found, eq, id_eq'.trans id_eq, name_eq'.trans name_eq, address_eq'.trans address_eq, ?_⟩
    exact Except.ok.inj (created_eq'.symm.trans created_eq)

end Table
end Heartbeat.Store
