import Heartbeat.Proofs.Store.Listing
import Heartbeat.Proofs.Store.Rollback

/-! What the schema promises of any content of the table, whoever has written it: ids ascend and addresses differ.
Others may write what they like into the texts of a row, but a row whose id or address is there already is
refused, and ids that are given are above all that were ever used. -/
namespace Heartbeat.Store
open Heartbeat.Time (Instant)

variable {t : Table} {row : Row} {rows : List Row} {name address : String} {status : Status} {now : Instant}
  {listed : List String} {membership : Membership} {db : Database}

/-- A table as the schema allows it. -/
structure Table.WellFormed (t : Table) : Prop where
  ascending : t.rows.Pairwise fun row other => row.id < other.id
  unique : t.addresses.Nodup
  /-- No row has an id above the largest one that was used. -/
  used : ∀ row ∈ t.rows, row.id ≤ t.lastId

namespace Table

/-- As long as an id is left, the next one is above the largest one used. -/
theorem lastId_lt_next (left : t.lastId ≠ Int64.maxValue) : t.lastId < t.lastId + 1 := by
  have below := t.lastId.toInt_lt
  have above := t.lastId.le_toInt
  rw [ne_eq, ← Int64.toInt_inj, Int64.toInt_maxValue] at left
  rw [Int64.lt_iff_toInt_lt, Int64.toInt_add, Int64.toInt_one, Int.bmod_eq_of_le] <;> omega

theorem insertById_ascending (ascending : rows.Pairwise fun row other => row.id < other.id)
    (fresh : ∀ other ∈ rows, other.id ≠ row.id) :
    (insertById row rows).Pairwise fun row other => row.id < other.id := by
  induction rows with
  | nil => exact List.pairwise_singleton _ row
  | cons first rest ih =>
    obtain ⟨here, others⟩ := List.pairwise_cons.mp ascending
    obtain ⟨differs, fresh⟩ := List.forall_mem_cons.mp fresh
    unfold insertById
    split
    · rename_i before
      refine List.pairwise_cons.mpr ⟨?_, ascending⟩
      intro other member
      rcases List.mem_cons.mp member with rfl | later
      · exact before
      · exact Int64.lt_trans before (here other later)
    · rename_i behind
      refine List.pairwise_cons.mpr ⟨?_, ih others fresh⟩
      intro other member
      rcases List.mem_cons.mp ((insertById_perm row rest).mem_iff.mp member) with rfl | later
      · exact Int64.lt_of_le_of_ne (Int64.not_lt.mp behind) differs
      · exact here other later

theorem wellFormed_empty : WellFormed {} := ⟨.nil, .nil, List.forall_mem_nil _⟩

/-- A row that is new by id and by address may be added. -/
theorem WellFormed.add (wellFormed : t.WellFormed) (fresh : row.address ∉ t.addresses)
    (next : ∀ other ∈ t.rows, other.id ≠ row.id) : (t.add row).WellFormed where
  ascending := insertById_ascending wellFormed.ascending next
  unique := nodup_add wellFormed.unique fresh
  used other member := by
    have grown : t.lastId ≤ (t.add row).lastId ∧ row.id ≤ (t.add row).lastId := by
      simp only [Table.add]
      split
      · rename_i above
        exact ⟨Int64.le_of_lt above, Int64.le_refl _⟩
      · rename_i below
        exact ⟨Int64.le_refl _, Int64.not_lt.mp below⟩
    rcases mem_add.mp member with rfl | old
    · exact grown.2
    · exact Int64.le_trans (wellFormed.used other old) grown.1

/-- A new server's row is new by its id. -/
theorem WellFormed.add_newRow (wellFormed : t.WellFormed) (left : t.lastId ≠ Int64.maxValue)
    (fresh : address ∉ t.addresses) (now : Instant) (name : String) (status : Status) :
    (t.add (t.newRow now name address status)).WellFormed := by
  refine wellFormed.add fresh fun other member same => ?_
  have used := wellFormed.used other member
  rw [same] at used
  exact Int64.lt_irrefl (Int64.lt_of_lt_of_le (lastId_lt_next left) used)

theorem WellFormed.update (wellFormed : t.WellFormed) :
    (t.update now listed membership status).2.WellFormed where
  ascending := by
    rw [rows_update, List.pairwise_map]
    simpa only [id_mark] using wellFormed.ascending
  unique := by
    rw [addresses_update]
    exact wellFormed.unique
  used row member := by
    obtain ⟨old, present, rfl⟩ := mem_update.mp member
    rw [id_mark]
    exact wellFormed.used old present

end Table

namespace Database

/-- The table, if there is one, is as the schema allows it. -/
def WellFormed (db : Database) : Prop := ∀ t, db.table = some t → t.WellFormed

/-- **Nothing that happens to a database breaks the schema.** -/
theorem WellFormed.happen (wellFormed : db.WellFormed) (incident : Incident) :
    (incident.happen db).WellFormed := by
  intro t' after
  have effect := db.happen_effect incident
  rw [after] at effect
  generalize after' : some t' = table at effect
  cases effect with
  | kept => exact wellFormed t' after'.symm
  | created held now name address status left fresh =>
    cases after'
    exact (wellFormed _ held).add_newRow left fresh now name status
  | updated held =>
    cases after'
    exact (wellFormed _ held).update
  | lost => cases after'
  | renewed =>
    cases after'
    exact Table.wellFormed_empty
  | inserted held _ _ _ _ _ _ row fresh next =>
    cases after'
    exact (wellFormed _ held).add fresh next

/-- Every history of a fresh database keeps to the schema. -/
theorem wellFormed_after (location : Location) (opened : openAt location = .ok db)
    (incidents : List Incident) : (db.after incidents).WellFormed := by
  have start : db.WellFormed := by
    intro t held
    cases location <;> cases opened <;> cases held <;> exact Table.wellFormed_empty
  clear opened
  induction incidents generalizing db with
  | nil => exact start
  | cons incident rest ih => exact ih (start.happen incident)

end Database
end Heartbeat.Store
