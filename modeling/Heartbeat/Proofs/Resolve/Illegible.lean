import Heartbeat.Proofs.Resolve.ColdCache
import Heartbeat.Proofs.Store.Schema
import Heartbeat.Proofs.Store.Selection

/-! Rows that nobody can read. Somebody else may write a row whose times are no times, and every operation has its
own way with it: the list fails because of any such row, a search only because of the one that it is for, and
updates and creations do not look. So the damage of a row stays with its address, except for the list; and a
resolution, which searches first, fails and leaves the row as it is. -/
namespace Heartbeat
open Store (Table Row Cell Membership Database)
open Time (Instant)

variable {t u : Table} {row : Row} {rows : List Row} {records : List Record} {r : Record}
  {address name : String} {status : Status} {now : Instant} {listed : List String}
  {membership : Membership} {db : Database}

/-! ## The list and the search -/

namespace Store

theorem Table.Spells.map_eq {α : Type} {f : Record → α} {g : Row → α} (spells : Table.Spells rows records)
    (same : ∀ {row : Row} {r : Record}, row.record? = some r → f r = g row) :
    records.map f = rows.map g := by
  induction spells with
  | nil => rfl
  | cons here _ ih => rw [List.map_cons, List.map_cons, same here, ih]

/-- The record of an address is that of its row. -/
theorem Table.Spells.find? (spells : Table.Spells rows records) (address : String) :
    records.find? (·.address == address) = (rows.find? (·.address == address)).bind Row.record? := by
  induction spells with
  | nil => rfl
  | cons here _ ih =>
    obtain ⟨-, -, same, -⟩ := Table.columns_of_record here
    rw [List.find?_cons, List.find?_cons, same]
    split
    · exact here.symm
    · exact ih

/-- Both ways to read agree, if both can be taken. -/
theorem Table.find_of_list (all : t.list = .ok records) (address : String) :
    t.find address = .ok (records.find? (·.address == address)) := by
  have spells := Table.list_eq_ok_iff.mp all
  rw [spells.find? address, Table.find]
  cases found : t.row? address with
  | none =>
    have absent : t.rows.find? (·.address == address) = none := found
    rw [absent]
    rfl
  | some row =>
    obtain ⟨r, legible⟩ := spells.legible row (Table.mem_of_row? found).1
    have present : t.rows.find? (·.address == address) = some row := found
    simp only [present, Option.bind_some, legible]

/-- A search fails because of the row that it is for, and of no other. -/
theorem Table.find_fails_iff (unique : t.addresses.Nodup) (address : String) :
    (∃ fault, t.find address = .error fault) ↔
      ∃ row ∈ t.rows, row.address = address ∧ ¬ row.Legible := by
  constructor
  · rintro ⟨fault, failed⟩
    rcases t.find_cases address with ⟨eq, -⟩ | ⟨row, member, named, illegible, -⟩ | ⟨_, -, -, _, -, eq⟩
    · cases failed.symm.trans eq
    · refine ⟨row, member, named, ?_⟩
      rintro ⟨r, legible⟩
      cases illegible.symm.trans legible
    · cases failed.symm.trans eq
  · rintro ⟨row, member, named, illegible⟩
    rcases t.find_cases address with ⟨-, fresh⟩ | ⟨_, -, -, -, eq⟩ | ⟨other, present, named', r, legible, -⟩
    · exact absurd (Table.mem_addresses.mpr ⟨row, member, named⟩) fresh
    · exact ⟨_, eq⟩
    · obtain rfl := Table.eq_of_address unique member present (named.trans named'.symm)
      exact absurd ⟨r, legible⟩ illegible

/-- What a search for a row that cannot be read answers. -/
theorem Table.find_illegible (unique : t.addresses.Nodup) (member : row ∈ t.rows)
    (illegible : ¬ row.Legible) : t.find row.address = .error (.database .queryServer) := by
  obtain ⟨fault, failed⟩ := (Table.find_fails_iff unique row.address).mpr ⟨row, member, rfl, illegible⟩
  rcases t.find_cases row.address with ⟨eq, -⟩ | ⟨_, -, -, -, eq⟩ | ⟨_, -, -, _, -, eq⟩
  · cases failed.symm.trans eq
  · exact eq
  · cases failed.symm.trans eq

/-! ## Updates and creations -/

/-- Two rows that differ in their times at most. -/
structure Row.ButTimes (row other : Row) : Prop where
  id : row.id = other.id
  name : row.name = other.name
  address : row.address = other.address
  status : row.status = other.status

/-- An update looks at no times. -/
theorem Row.ButTimes.writes {other : Row} (alike : row.ButTimes other) :
    Table.writes listed membership status row = Table.writes listed membership status other := by
  rw [Table.writes, Table.writes, alike.status, alike.address]

theorem Row.ButTimes.mark {other : Row} (alike : row.ButTimes other) :
    (Table.mark now listed membership status row).ButTimes
      (Table.mark now listed membership status other) := by
  unfold Table.mark
  rw [alike.writes]
  split
  · exact ⟨alike.id, alike.name, alike.address, rfl⟩
  · exact alike

theorem Table.update_butTimes (alike : List.Forall₂ Row.ButTimes t.rows u.rows) (now : Instant)
    (listed : List String) (membership : Membership) (status : Status) :
    (t.update now listed membership status).1 = (u.update now listed membership status).1 ∧
      List.Forall₂ Row.ButTimes (t.update now listed membership status).2.rows
        (u.update now listed membership status).2.rows := by
  constructor
  · simp only [Table.update]
    generalize t.rows = rows, u.rows = others at alike
    induction alike with
    | nil => rfl
    | cons here _ ih => rw [List.countP_cons, List.countP_cons, ih, here.writes]
  · rw [Table.rows_update, Table.rows_update, List.forall₂_map_left_iff, List.forall₂_map_right_iff]
    exact alike.imp fun _ _ here => here.mark

/-- What an update is to a row: it is written, if it is one of those that the update is for and holds another
status, and otherwise left as it is. -/
inductive Row.Updated (now : Instant) (listed : List String) (membership : Membership) (status : Status)
    (row : Row) : Row → Prop where
  | written (selected : membership.IsFor listed row.address) (other : row.status ≠ .integer status.toColumn) :
      Updated now listed membership status row
        { row with status := .integer status.toColumn, updatedAt := now.renderOffset }
  | spared (reason : ¬ membership.IsFor listed row.address ∨ row.status = .integer status.toColumn) :
      Updated now listed membership status row row

theorem Row.updated_mark (row : Row) :
    row.Updated now listed membership status (Table.mark now listed membership status row) := by
  by_cases writes : Table.writes listed membership status row = true
  · obtain ⟨other, selected⟩ := Table.writes_iff.mp writes
    rw [Table.mark_of_writes writes]
    exact .written selected other
  · rw [Table.mark_of_not_writes writes]
    rw [Table.writes_iff, not_and'] at writes
    by_cases selected : membership.IsFor listed row.address
    · exact .spared (.inr (not_not.mp (writes selected)))
    · exact .spared (.inl selected)

end Store

/-! ## Resolutions -/

/-- A resolution that misses in the cache and fails in the store has failed. -/
theorem resolve_of_failed_find {σ : Type} {b : Backend σ} {s s' : σ} {fault : Store.Fault}
    (missed : cachedRecord? (b.cacheGet (cacheKey address) s).1 = none)
    (failed : b.find address (b.cacheGet (cacheKey address) s).2 = (.error fault, s')) :
    resolve b address s = (.error (.store fault), s') := by
  rw [resolve_of_miss missed]
  simp only [ResolvePhase.advance, ResolvePhase.step, failed, ResolvePhase.afterFind, ResolvePhase.result]

namespace Services

variable {s : Services}

/-- Whatever disturbs it, a search for a row that cannot be read fails. -/
theorem find_illegible (held : s.database.table = some t) (unique : t.addresses.Nodup)
    (member : row ∈ t.rows) (illegible : ¬ row.Legible) :
    ∃ fault s', s.find row.address = (.error fault, s') := by
  have rows := (s.disturb_called .find row.address).rows
  unfold find
  generalize s.disturb .find row.address = disturbed at rows ⊢
  obtain ⟨_ | fault, after⟩ := disturbed
  · rw [held] at rows
    have held' := rows.eq_of_mem (Table.mem_addresses.mpr ⟨row, member, rfl⟩)
    simp only [Database.find_eq held', Table.find_illegible unique member illegible]
    exact ⟨_, _, rfl⟩
  · exact ⟨fault, after, rfl⟩

/-- A resolution of an address whose row cannot be read, which the cache does not know. -/
structure Stuck (s : Services) (t : Table) (address : String) : Prop where
  failed : ∃ fault, (s.resolve address).1 = .error (.store fault)
  /-- Whatever others are about to do, no row is added. -/
  rows : (s.resolve address).2.database.table = some t
  quiet : s.disturbances = [] →
    s.resolve address = (.error (.store (.database .queryServer)), s)

theorem stuck (held : s.database.table = some t) (unique : t.addresses.Nodup) (member : row ∈ t.rows)
    (illegible : ¬ row.Legible) (silent : Silent (s.cacheGet (cacheKey row.address)).1) :
    s.Stuck t row.address where
  failed := by
    obtain ⟨fault, s', failed⟩ := find_illegible held unique member illegible
    exact ⟨fault, congrArg Prod.fst (resolve_of_failed_find (silent_iff.mp silent) failed)⟩
  rows := by
    have rows := (s.resolve_called row.address).rows
    rw [held] at rows
    exact rows.eq_of_mem (Table.mem_addresses.mpr ⟨row, member, rfl⟩)
  quiet calm := by
    have failed : s.find row.address = (.error (.database .queryServer), s) := by
      rw [s.find_undisturbed calm held, Table.find_illegible unique member illegible]
    exact resolve_of_failed_find (silent_iff.mp silent) failed

end Services

/-! ## How far the damage reaches -/

/-- How the operations of a database get along with the rows of its table, of which any may be damaged. -/
structure Store.Database.Contains (db : Database) (t : Table) : Prop where
  /-- Any damaged row spoils the list. -/
  listable : (∃ records, db.list.1 = .ok records) ↔ ∀ row ∈ t.rows, row.Legible
  /-- A list is in the order of ids and gives what the searches give. -/
  listed : ∀ records, db.list.1 = .ok records →
    (records.Pairwise fun r s => r.id < s.id) ∧ (records.map Record.address).Nodup ∧
      ∀ address, (db.find address).1 = .ok (records.find? (·.address == address))
  /-- A damaged row spoils the search for its address, and no other. -/
  found : ∀ address, (∃ fault, (db.find address).1 = .error fault) ↔
    ∃ row ∈ t.rows, row.address = address ∧ ¬ row.Legible
  fault : ∀ address fault, (db.find address).1 = .error fault → fault = .database .queryServer
  /-- An update succeeds, and which rows it writes depends on their addresses and statuses. -/
  updated : ∀ now listed membership status, ∃ t',
    db.setStatus now listed membership status =
        (.ok (t.rows.countP (Table.writes listed membership status)),
          { db with table := some t', window := [] }) ∧
      List.Forall₂ (Row.Updated now listed membership status) t.rows t'.rows
  /-- With other times in the rows, whether or not they can be read, the same rows are written. -/
  retimed : ∀ (other : Database) (u : Table), other.table = some u →
    List.Forall₂ Row.ButTimes t.rows u.rows →
    ∀ now listed membership status, ∃ t' u' : Table,
      (db.setStatus now listed membership status).2.table = some t' ∧
      (other.setStatus now listed membership status).2.table = some u' ∧
      (db.setStatus now listed membership status).1 = (other.setStatus now listed membership status).1 ∧
      List.Forall₂ Row.ButTimes t'.rows u'.rows
  /-- The address of a damaged row is taken, if there is an id left to try it with. -/
  created : ∀ row ∈ t.rows, ¬ row.Legible → ∀ now name status,
    db.create now name row.address status =
      (.error (if t.lastId = Int64.maxValue then .database .createServer else .conflict row.address), db)

theorem Store.Database.contains (held : db.table = some t) (wellFormed : t.WellFormed) : db.Contains t where
  listable := by rw [Database.list_eq held, Table.listable_iff, Table.Legible]
  listed records all := by
    rw [Database.list_eq held] at all
    have spells := Table.list_eq_ok_iff.mp all
    refine ⟨?_, ?_, fun address => ?_⟩
    · have ids := wellFormed.ascending
      rw [← List.pairwise_map (f := Row.id) (R := (· < ·)),
        ← spells.map_eq (f := Record.id) fun same => (Table.columns_of_record same).1] at ids
      exact List.pairwise_map.mp ids
    · rw [spells.map_eq fun same => (Table.columns_of_record same).2.2.1]
      exact wellFormed.unique
    · rw [Database.find_eq held]
      exact Table.find_of_list all address
  found address := by
    rw [Database.find_eq held]
    exact Table.find_fails_iff wellFormed.unique address
  fault address fault failed := by
    rw [Database.find_eq held] at failed
    rcases t.find_cases address with ⟨eq, -⟩ | ⟨_, -, -, -, eq⟩ | ⟨_, -, -, _, -, eq⟩
    · cases failed.symm.trans eq
    · cases failed.symm.trans eq
      rfl
    · cases failed.symm.trans eq
  updated now listed membership status := by
    refine ⟨_, Database.setStatus_of_table held, ?_⟩
    rw [Table.rows_update, List.forall₂_map_right_iff]
    exact List.forall₂_same.mpr fun row _ => row.updated_mark
  retimed other u held' alike now listed membership status := by
    obtain ⟨counts, rows⟩ := Table.update_butTimes alike now listed membership status
    rw [Database.setStatus_of_table held, Database.setStatus_of_table held']
    exact ⟨_, _, rfl, rfl, congrArg Except.ok counts, rows⟩
  created row member illegible now name status := by
    have taken : t.taken row.address = true :=
      Table.taken_iff.mpr (Table.mem_addresses.mpr ⟨row, member, rfl⟩)
    simp only [Database.create, held, Table.create, taken, if_true]
    by_cases full : t.lastId = Int64.maxValue
    · rw [if_pos full, if_pos full]
    · rw [if_neg full, if_neg full]

/-- **A row that nobody can read does no harm beyond its address, but to the list.** In any table that the schema
allows, whatever stands in its rows: all servers can be listed just if every row can be read, and the list is
then in the order of ids and agrees with every search; a search fails just if the row that it is for cannot be
read; updates succeed and choose rows by their addresses and statuses; the address of a row that cannot be
read is taken, as every creation is told that has an id left to try; and a resolution of it which misses in the
cache fails in the store, and adds no row. -/
theorem illegible_rows_are_contained (held : db.table = some t) (wellFormed : t.WellFormed) :
    db.Contains t ∧
    ∀ row ∈ t.rows, ¬ row.Legible → ∀ s : Services, s.database = db →
      Silent (s.cacheGet (cacheKey row.address)).1 → s.Stuck t row.address := by
  refine ⟨Database.contains held wellFormed, fun row member illegible s same silent => ?_⟩
  exact Services.stuck (same ▸ held) wellFormed.unique member illegible silent

namespace Store.Database

/-- A row for the address `b` that somebody else has written, with a time that is none. -/
def foreignRow (id : Option Cell) : Incident :=
  .insert id (some (.text "n")) (some (.text "b")) (some (.integer 2)) (some (.text "yesterday"))
    (some (.text "2024-01-01T00:00:00Z"))

/-- The row that comes of it. -/
def damagedRow (id : Int64) : Row := ⟨id, "n", "b", .integer 2, "yesterday", "2024-01-01T00:00:00Z"⟩

theorem damagedRow_illegible (id : Int64) : ¬ (damagedRow id).Legible := by
  rintro ⟨r, spelled⟩
  obtain ⟨-, -, -, created⟩ := Table.columns_of_record spelled
  have refused : (Instant.readStrict "yesterday").isOk = false := by decide +kernel
  have read : Instant.readStrict "yesterday" = .ok r.createdAt := created
  rw [read] at refused
  cases refused

/-- A database with a server and a foreign row. -/
def damaged : Database := ({} : Database).after [.call .epoch (.create "a" "a" .up), foreignRow none]

def damagedTable : Table := ⟨[.ofRecord ⟨1, "a", "a", .up, .epoch, .epoch⟩, damagedRow 2], 2⟩

/-- A daemon over the damaged database, with a cache that holds nothing. -/
def damagedServices : Services := { Services.plain with database := damaged }

/-- The foreign row spoils the list and the search for its address, and a resolution of it. The other server is
found, and the address is taken. -/
theorem foreign_row_is_contained :
    damaged.table = some damagedTable ∧ damagedTable.WellFormed ∧ damagedRow 2 ∈ damagedTable.rows ∧
      Silent (damagedServices.cacheGet (cacheKey "b")).1 ∧
      (¬ ∃ records, damaged.list.1 = .ok records) ∧
      (∃ fault, (damaged.find "b").1 = .error fault) ∧
      (¬ ∃ fault, (damaged.find "a").1 = .error fault) ∧
      (damaged.create .epoch "b" "b" .up).1 = .error (.conflict "b") ∧
      (damagedServices.resolve "b").1 = .error (.store (.database .queryServer)) := by
  have held : damaged.table = some damagedTable := by decide +kernel
  have wellFormed : damagedTable.WellFormed := wellFormed_after .missing rfl _ _ held
  have member : damagedRow 2 ∈ damagedTable.rows := .tail _ (.head _)
  have illegible := damagedRow_illegible 2
  have early : Instant.epoch.HasPlainYear := by decide +kernel
  have silent : Silent (damagedServices.cacheGet (cacheKey "b")).1 := silent_iff.mpr (by decide +kernel)
  obtain ⟨contains, stuck⟩ := illegible_rows_are_contained held wellFormed
  have resolved := (stuck _ member illegible damagedServices rfl silent).quiet rfl
  have taken := contains.created _ member illegible .epoch "b" .up
  refine ⟨held, wellFormed, member, silent, ?_, ?_, ?_, congrArg Prod.fst taken, congrArg Prod.fst resolved⟩
  · exact fun all => illegible (contains.listable.mp all _ member)
  · exact (contains.found "b").mpr ⟨_, member, rfl, illegible⟩
  · intro failed
    obtain ⟨row, present, named, unread⟩ := (contains.found "a").mp failed
    rcases List.mem_cons.mp present with rfl | present
    · exact unread ⟨_, Row.record?_ofRecord early early⟩
    · rw [List.mem_singleton.mp present] at named
      exact absurd named (by decide)

/-- A database in which the foreign row has the largest id of all. -/
def exhausted : Database := ({} : Database).after [foreignRow (some (.integer Int64.maxValue))]

/-- With no id left, a creation for the address of a row that cannot be read is refused, but not for a
conflict. -/
theorem no_conflict_without_ids : ∃ t, exhausted.table = some t ∧ t.WellFormed ∧
    damagedRow Int64.maxValue ∈ t.rows ∧ ¬ (damagedRow Int64.maxValue).Legible ∧
    (exhausted.create .epoch "b" "b" .up).1 = .error (.database .createServer) ∧
    (exhausted.create .epoch "b" "b" .up).1 ≠ .error (.conflict "b") := by
  have held : exhausted.table = some ⟨[damagedRow Int64.maxValue], Int64.maxValue⟩ := by decide +kernel
  have refused : (exhausted.create .epoch "b" "b" .up).1 = .error (.database .createServer) := by
    simp [create, held, Table.create]
  refine ⟨_, held, wellFormed_after .missing rfl _ _ held, .head _,
    damagedRow_illegible _, refused, ?_⟩
  rw [refused]
  simp

end Store.Database
end Heartbeat
