import Heartbeat.Proofs.Store.Update

/-! A table that nobody but the store has written is a list of records: its rows spell them, their ids are the
numbers from one, and each operation of the table is an operation of the list. -/
namespace Heartbeat
open Heartbeat.Time (Instant)

/-- The record after a bulk update at some time. -/
def Record.marked (now : Instant) (addresses : List String) (membership : Store.Membership)
    (status : Status) (r : Record) : Record :=
  if r.status ≠ status ∧ membership.selects addresses r.address then { r with status, lastUpdated := now }
  else r

/-- An update leaves whatever does not depend on the status and the time of the last update. -/
theorem Record.map_marked {α : Type} {f : Record → α}
    (blind : ∀ (r : Record) status lastUpdated, f { r with status, lastUpdated } = f r) (now : Instant)
    (addresses : List String) (membership : Store.Membership) (status : Status) (records : List Record) :
    (records.map (marked now addresses membership status)).map f = records.map f := by
  rw [List.map_map]
  refine List.map_congr_left fun r _ => ?_
  simp only [Function.comp_apply, marked]
  split
  · exact blind r status now
  · rfl

theorem Status.toColumn_inj {left right : Status} : left.toColumn = right.toColumn ↔ left = right := by
  refine ⟨fun same => ?_, congrArg _⟩
  rw [← Status.ofColumn_toColumn left, same, Status.ofColumn_toColumn]

namespace Store

variable {records : List Record} {r : Record} {name address : String} {status : Status} {now : Instant}

/-- The row that the store keeps of a record. -/
def Row.ofRecord (r : Record) : Row :=
  { id := r.id, name := r.name, address := r.address, status := .integer r.status.toColumn,
    createdAt := r.createdAt.renderOffset, updatedAt := r.lastUpdated.renderOffset }

theorem Row.record?_ofRecord (created : r.createdAt.HasPlainYear) (updated : r.lastUpdated.HasPlainYear) :
    (Row.ofRecord r).record? = some r := by
  simp [ofRecord, record?, Instant.readStrict_renderOffset created, Instant.readStrict_renderOffset updated]

/-- How many ids there are to give. -/
def idsInAll : Nat := 2 ^ 63 - 1

/-- The records have the numbers from one as their ids, in this order. -/
structure Numbered (records : List Record) : Prop where
  ids : records.map Record.id = (List.range' 1 records.length).map Int64.ofNat
  enough : records.length ≤ idsInAll

/-- The ids of numbered records, as numbers. -/
theorem Numbered.counts (numbered : Numbered records) :
    records.map (fun r => r.id.toInt) = (List.range' 1 records.length).map (fun n : Nat => (n : Int)) := by
  have enough := numbered.enough
  unfold idsInAll at enough
  calc records.map (fun r => r.id.toInt)
    _ = (records.map Record.id).map Int64.toInt := by rw [List.map_map]; rfl
    _ = (List.range' 1 records.length).map (Int64.toInt ∘ Int64.ofNat) := by
      rw [numbered.ids, List.map_map]
    _ = (List.range' 1 records.length).map (fun n : Nat => (n : Int)) := by
      refine List.map_congr_left fun n mem => ?_
      have bounds := List.mem_range'_1.mp mem
      exact Int64.toInt_ofNat_of_lt (by omega)

theorem Numbered.le (numbered : Numbered records) (mem : r ∈ records) : r.id.toInt ≤ records.length := by
  have counted : r.id.toInt ∈ records.map (fun r => r.id.toInt) := List.mem_map_of_mem mem
  rw [numbered.counts] at counted
  obtain ⟨n, within, eq⟩ := List.mem_map.mp counted
  have bounds := List.mem_range'_1.mp within
  omega

theorem Numbered.append (numbered : Numbered records) (left : records.length < idsInAll)
    (id : r.id = Int64.ofNat (records.length + 1)) : Numbered (records ++ [r]) where
  ids := by
    rw [List.map_append, numbered.ids, List.length_append, List.length_singleton, List.range'_1_concat,
      List.map_append, List.map_singleton, List.map_singleton, id, Nat.add_comm 1]
  enough := by
    rw [List.length_append]
    exact left

theorem Numbered.marked (numbered : Numbered records) (now : Instant) (addresses : List String)
    (membership : Membership) (status : Status) :
    Numbered (records.map (Record.marked now addresses membership status)) where
  ids := by rw [Record.map_marked fun _ _ _ => rfl, numbered.ids, List.length_map]
  enough := by rw [List.length_map]; exact numbered.enough

namespace Table

/-- The table in which the rows of these records stand. -/
def ofRecords (records : List Record) : Table :=
  ⟨records.map Row.ofRecord, Int64.ofNat records.length⟩

theorem addresses_ofRecords (records : List Record) :
    (ofRecords records).addresses = records.map Record.address := by
  rw [addresses, ofRecords, List.map_map]
  rfl

theorem list_ofRecords (plain : ∀ r ∈ records, r.createdAt.HasPlainYear ∧ r.lastUpdated.HasPlainYear) :
    (ofRecords records).list = .ok records := by
  rw [list_eq_ok_iff, Spells, ofRecords, List.forall₂_map_left_iff]
  exact List.forall₂_same.mpr fun r mem => Row.record?_ofRecord (plain r mem).1 (plain r mem).2

/-! ## Creation -/

theorem insertById_last {row : Row} {rows : List Row} (last : ∀ other ∈ rows, ¬ row.id < other.id) :
    insertById row rows = rows ++ [row] := by
  induction rows with
  | nil => rfl
  | cons first rest ih =>
    obtain ⟨here, others⟩ := List.forall_mem_cons.mp last
    rw [insertById, if_neg here, ih others]
    rfl

theorem lastId_ofRecords (enough : records.length ≤ idsInAll) :
    (ofRecords records).lastId = Int64.maxValue ↔ records.length = idsInAll := by
  rw [← Int64.toInt_inj, Int64.toInt_maxValue]
  simp only [ofRecords]
  unfold idsInAll at enough ⊢
  rw [Int64.toInt_ofNat_of_lt (by omega)]
  omega

/-- The row of a new server stands behind all others. -/
theorem add_newRow (numbered : Numbered records) (left : records.length < idsInAll) (now : Instant)
    (name address : String) (status : Status) :
    (ofRecords records).add ((ofRecords records).newRow now name address status) =
      ofRecords (records ++ [⟨(ofRecords records).lastId + 1, name, address, status, now, now⟩]) := by
  have next : (ofRecords records).lastId + 1 = Int64.ofNat (records.length + 1) :=
    (Int64.ofNat_add records.length 1).symm
  unfold idsInAll at left
  have number : (Int64.ofNat (records.length + 1)).toInt = records.length + 1 :=
    Int64.toInt_ofNat_of_lt (by omega)
  have above : (ofRecords records).lastId < (ofRecords records).lastId + 1 := by
    rw [next, Int64.lt_iff_toInt_lt, number, ofRecords, Int64.toInt_ofNat_of_lt (by omega)]
    omega
  have last : ∀ other ∈ (ofRecords records).rows,
      ¬ ((ofRecords records).newRow now name address status).id < other.id := by
    intro other mem
    obtain ⟨r, present, rfl⟩ := List.mem_map.mp mem
    have bound := numbered.le present
    simp only [newRow, Row.ofRecord, next]
    rw [Int64.lt_iff_toInt_lt, number]
    omega
  refine congrArg₂ Table.mk ?_ ?_
  · rw [insertById_last last, List.map_append]
    rfl
  · rw [List.length_append, List.length_singleton, ← next]
    exact if_pos above

/-! ## Updates -/

/-- A row that is marked spells the marked record. -/
theorem mark_ofRecord (now : Instant) (addresses : List String) (membership : Membership) (status : Status)
    (r : Record) : mark now addresses membership status (Row.ofRecord r) =
      Row.ofRecord (r.marked now addresses membership status) := by
  simp only [mark, writes, Record.marked]
  by_cases held : r.status = status
  · simp [Row.ofRecord, held]
  · have column : (Cell.integer r.status.toColumn != Cell.integer status.toColumn) = true := by
      simpa [Status.toColumn_inj] using held
    simp only [Row.ofRecord, column, Bool.true_and, ne_eq, held, not_false_eq_true, true_and]
    split
    · rfl
    · rfl

theorem update_ofRecords (now : Instant) (addresses : List String) (membership : Membership)
    (status : Status) : ((ofRecords records).update now addresses membership status).2 =
      ofRecords (records.map (Record.marked now addresses membership status)) := by
  refine congrArg₂ Table.mk ?_ ?_
  · rw [ofRecords, List.map_map, List.map_map]
    exact List.map_congr_left fun r _ => mark_ofRecord now addresses membership status r
  · rw [List.length_map]
    rfl

end Table
end Store
end Heartbeat
