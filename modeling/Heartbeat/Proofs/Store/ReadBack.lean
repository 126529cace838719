import Heartbeat.Proofs.Store.Identity
import Heartbeat.Proofs.Store.Listing
import Heartbeat.Proofs.Store.Rollback

/-! What a creator is told is what everybody reads later. The creator is given the instant that the clock had,
and all others the one that they read out of the texts in the row, so the two agree only because the texts
lose nothing. From the creation on, whatever happens to the store short of losing its table, there is one row
of the address, and it is the row that the store keeps of the record that one expects: the creator's, with the
marks of the status updates that were made for it since. -/
namespace Heartbeat.Store
open Heartbeat.Time (Instant)

variable {t t' : Table} {row held : Row} {rows : List Row} {r : Record} {records : List Record}
  {address name : String} {status : Status} {now : Instant} {listed : List String}
  {membership : Membership} {db db' : Database}

namespace Table

/-! ## The rows of an address -/

/-- The rows of an address, in the order of ids. -/
def rowsOf (t : Table) (address : String) : List Row := t.rows.filter (·.address == address)

theorem rowsOf_eq_nil : t.rowsOf address = [] ↔ address ∉ t.addresses := by
  simp [rowsOf, List.filter_eq_nil_iff, mem_addresses]

theorem mem_of_rowsOf (only : t.rowsOf address = [row]) : row ∈ t.rows ∧ row.address = address := by
  have member : row ∈ t.rowsOf address := only ▸ List.mem_singleton.mpr rfl
  simpa [rowsOf] using member

/-- A row that is added is among the rows of its address, and of no other. -/
theorem rowsOf_add (t : Table) (row : Row) (address : String) : ((t.add row).rowsOf address).Perm
    (if row.address = address then row :: t.rowsOf address else t.rowsOf address) := by
  have perm := (insertById_perm row t.rows).filter (·.address == address)
  rw [List.filter_cons] at perm
  by_cases named : row.address = address
  · rw [if_pos named]
    rwa [if_pos (beq_iff_eq.mpr named)] at perm
  · rw [if_neg named]
    rwa [if_neg (mt beq_iff_eq.mp named)] at perm

theorem rowsOf_add_self (fresh : row.address ∉ t.addresses) : (t.add row).rowsOf row.address = [row] := by
  have perm := t.rowsOf_add row row.address
  rw [if_pos rfl, rowsOf_eq_nil.mpr fresh] at perm
  exact List.perm_singleton.mp perm

theorem rowsOf_add_of_ne (other : row.address ≠ address) (only : t.rowsOf address = [held]) :
    (t.add row).rowsOf address = [held] := by
  have perm := t.rowsOf_add row address
  rw [if_neg other, only] at perm
  exact List.perm_singleton.mp perm

theorem rowsOf_update : (t.update now listed membership status).2.rowsOf address =
    (t.rowsOf address).map (mark now listed membership status) := by
  rw [rowsOf, rows_update, List.filter_map]
  simp only [Function.comp_def, address_mark, rowsOf]

theorem find_of_rowsOf (only : t.rowsOf address = [row]) (spelled : row.record? = some r) :
    t.find address = .ok (some r) := by
  have found : t.row? address = some row := by
    rw [row?, ← List.head?_filter]
    exact congrArg List.head? only
  simp only [find, found, spelled]

/-- The records of an address are spelled by its rows. -/
theorem Spells.filter (spells : Spells rows records) (address : String) :
    Spells (rows.filter (·.address == address)) (records.filter (·.address == address)) := by
  induction spells with
  | nil => exact .nil
  | cons here _ ih =>
    obtain ⟨-, -, same, -⟩ := columns_of_record here
    rw [List.filter_cons, List.filter_cons, same]
    split
    · exact .cons here ih
    · exact ih

/-- In a list of all records, the record of an address with one row is alone. -/
theorem listed_of_rowsOf (only : t.rowsOf address = [row]) (spelled : row.record? = some r)
    (all : t.list = .ok records) : records.filter (·.address == address) = [r] := by
  have spells := (list_eq_ok_iff.mp all).filter address
  rw [← rowsOf, only] at spells
  obtain ⟨s, others, here, none, eq⟩ := List.forall₂_cons_left_iff.mp spells
  obtain rfl : r = s := Option.some.inj (spelled.symm.trans here)
  rw [eq, List.forall₂_nil_left_iff.mp none]

end Table

/-! ## What becomes of a record -/

namespace Database

/-- An incident that takes no row away, and writes statuses in years of four digits only. -/
structure Incident.Lasting (durable : Bool) (incident : Incident) : Prop where
  present : incident ≠ .lose
  /-- A table that is in no file ends when the database is opened again. -/
  filed : incident = .reopen → durable = true
  plain : ∀ u, incident.completed? = some u → u.now.HasPlainYear

/-- The incident is a status update that is for the record and changes its status. -/
def Incident.Touches (incident : Incident) (r : Record) : Prop :=
  ∃ u, incident.completed? = some u ∧ u.membership.IsFor u.listed r.address ∧ u.status ≠ r.status

/-- The record that one expects after an incident: marked by a status update that reaches its end. -/
def Incident.remake (r : Record) (incident : Incident) : Record :=
  match incident.completed? with
  | some u => r.marked u.now u.listed u.membership u.status
  | none => r

/-- The table has one row of the record's address, and the store has written it. -/
structure Keeps (db : Database) (r : Record) : Prop where
  row : ∃ t, db.table = some t ∧ t.rowsOf r.address = [Row.ofRecord r]
  plain : r.createdAt.HasPlainYear ∧ r.lastUpdated.HasPlainYear

/-- What everybody reads of an address: this record, alone among those that are listed. -/
structure Reads (db : Database) (r : Record) : Prop where
  found : (db.find r.address).1 = .ok (some r)
  listed : ∀ records, db.list.1 = .ok records → records.filter (·.address == r.address) = [r]
  /-- Rows of other addresses can keep the list from being read, and only they. -/
  listable : ∀ t, db.table = some t → (∀ row ∈ t.rows, row.address ≠ r.address → row.Legible) →
    ∃ records, db.list.1 = .ok records
  /-- The texts in the row give the instants of the record, to the nanosecond. -/
  stamped : ∃ t, db.table = some t ∧ ∃ row ∈ t.rows, row.address = r.address ∧
    Instant.readStrict row.createdAt = .ok r.createdAt ∧
    Instant.readStrict row.updatedAt = .ok r.lastUpdated

variable {incident : Incident} {incidents : List Incident}

theorem address_marked : (r.marked now listed membership status).address = r.address := by
  unfold Record.marked
  split <;> rfl

theorem marked_of_touched (selected : membership.IsFor listed r.address) (other : status ≠ r.status) :
    r.marked now listed membership status = { r with status, lastUpdated := now } :=
  if_pos ⟨other.symm, Membership.selects_iff.mpr selected⟩

theorem marked_of_untouched (untouched : ¬ (membership.IsFor listed r.address ∧ status ≠ r.status)) :
    r.marked now listed membership status = r := by
  refine if_neg fun touched => untouched ?_
  exact ⟨Membership.selects_iff.mp touched.2, touched.1.symm⟩

theorem remake_of_completed {u : StatusUpdate} (completed : incident.completed? = some u) :
    incident.remake r = r.marked u.now u.listed u.membership u.status := by
  simp only [Incident.remake, completed]

theorem remake_of_idle (idle : incident.completed? = none) : incident.remake r = r := by
  simp only [Incident.remake, idle]

theorem remake_of_untouched (untouched : ¬ incident.Touches r) : incident.remake r = r := by
  cases completed : incident.completed? with
  | none => exact remake_of_idle completed
  | some u =>
    rw [remake_of_completed completed]
    exact marked_of_untouched fun touched => untouched ⟨u, completed, touched⟩

/-- A status update leaves the row that the store keeps of the record as it is then. -/
theorem Keeps.updated (keeps : db.Keeps r) (held : db.table = some t)
    (table : db'.table = some (t.update now listed membership status).2) (plain : now.HasPlainYear) :
    db'.Keeps (r.marked now listed membership status) where
  row := by
    obtain ⟨_, held', only⟩ := keeps.row
    cases held.symm.trans held'
    refine ⟨_, table, ?_⟩
    rw [address_marked, Table.rowsOf_update, only, List.map_singleton, Table.mark_ofRecord]
  plain := by
    unfold Record.marked
    split
    · exact ⟨keeps.plain.1, plain⟩
    · exact keeps.plain

/-- A database with the same rows of the address keeps the record as well. -/
theorem Keeps.of_rowsOf (keeps : db.Keeps r) (held : db.table = some t) (table : db'.table = some t')
    (same : ∀ row, t.rowsOf r.address = [row] → t'.rowsOf r.address = [row]) : db'.Keeps r where
  row := by
    obtain ⟨_, held', only⟩ := keeps.row
    cases held.symm.trans held'
    exact ⟨t', table, same _ only⟩
  plain := keeps.plain

/-- Whether a database is kept in a file is decided when it is opened. -/
theorem durable_happen (db : Database) (incident : Incident) :
    (incident.happen db).durable = db.durable := by
  cases incident with
  | call now command =>
    cases command with
    | create name address status =>
      simp only [Incident.happen, run, create]
      split
      · rfl
      · split <;> rfl
    | find address =>
      simp only [Incident.happen, run, find]
      split <;> rfl
    | list =>
      simp only [Incident.happen, run, list]
      split <;> rfl
    | shutdown => rfl
    | setStatus listed membership status =>
      simp only [Incident.happen, run, setStatus]
      rcases db.setStatusFailing_ends (fun _ => false) now listed membership status with
        ⟨_, _, _, eq⟩ | ⟨_, _, _, eq⟩
      · rw [eq]
        rfl
      · rw [eq]
  | update fails now listed membership status =>
    simp only [Incident.happen]
    rcases db.setStatusFailing_ends fails now listed membership status with
      ⟨_, _, _, eq⟩ | ⟨_, _, _, eq⟩
    · rw [eq]
      rfl
    · rw [eq]
  | lose => rfl
  | reopen => rfl
  | insert id name address status createdAt updatedAt =>
    simp only [Incident.happen, insertRow]
    cases db.table with
    | none => rfl
    | some t =>
      simp only [Option.bind_eq_bind, Option.bind_some]
      cases t.addForeign id name address status createdAt updatedAt <;> rfl

/-- **No incident short of the loss of the table takes a record away**, and none but status updates changes
it. -/
theorem Keeps.happen (keeps : db.Keeps r) (lasting : incident.Lasting db.durable) :
    (incident.happen db).Keeps (incident.remake r) := by
  obtain ⟨t, held, only⟩ := keeps.row
  have present : r.address ∈ t.addresses := Table.mem_addresses.mpr ⟨_, Table.mem_of_rowsOf only⟩
  have effect := db.happen_effect incident
  generalize after : (incident.happen db).table = table at effect
  cases effect with
  | kept idle =>
    have idle := idle.resolve_right fun gone => by cases held.symm.trans gone
    rw [remake_of_idle idle]
    exact keeps.of_rowsOf held (after.trans held) fun _ => id
  | @created t₁ held₁ now name address status left fresh =>
    cases held.symm.trans held₁
    have other : address ≠ r.address := fun same => fresh (same ▸ present)
    exact keeps.of_rowsOf held after fun _ => Table.rowsOf_add_of_ne other
  | @updated _ t₁ u held₁ completed =>
    cases held.symm.trans held₁
    rw [remake_of_completed completed]
    exact keeps.updated held after (lasting.plain u completed)
  | lost => exact absurd rfl lasting.present
  | renewed gone =>
    rcases gone with passing | gone
    · cases passing.symm.trans (lasting.filed rfl)
    · cases held.symm.trans gone
  | @inserted t₁ held₁ id name address status createdAt updatedAt row fresh next =>
    cases held.symm.trans held₁
    have other : row.address ≠ r.address := fun same => fresh (same ▸ present)
    exact keeps.of_rowsOf held after fun _ => Table.rowsOf_add_of_ne other

/-- What becomes of a record while it lasts. -/
theorem Keeps.after (keeps : db.Keeps r)
    (lasting : ∀ incident ∈ incidents, incident.Lasting db.durable) :
    (db.after incidents).Keeps (incidents.foldl Incident.remake r) := by
  induction incidents generalizing db r with
  | nil => exact keeps
  | cons incident rest ih =>
    obtain ⟨first, others⟩ := List.forall_mem_cons.mp lasting
    rw [← durable_happen db incident] at others
    exact ih (keeps.happen first) others

/-! ## What is read -/

/-- A record that is kept is read, by everybody alike. -/
theorem Keeps.reads (keeps : db.Keeps r) : db.Reads r := by
  obtain ⟨t, held, only⟩ := keeps.row
  obtain ⟨created, updated⟩ := keeps.plain
  have spelled := Row.record?_ofRecord created updated
  obtain ⟨member, named⟩ := Table.mem_of_rowsOf only
  refine ⟨?_, fun records all => ?_, fun t' held' others => ?_, ?_⟩
  · rw [find_eq held, Table.find_of_rowsOf only spelled]
  · rw [list_eq held] at all
    exact Table.listed_of_rowsOf only spelled all
  · cases held.symm.trans held'
    rw [list_eq held]
    refine Table.Legible.list_eq fun row present => ?_
    by_cases own : row.address = r.address
    · have among : row ∈ t.rowsOf r.address := by simp [Table.rowsOf, present, own]
      rw [only, List.mem_singleton] at among
      exact among ▸ ⟨r, spelled⟩
    · exact others row present own
  · exact ⟨t, held, _, member, named, Instant.readStrict_renderOffset created,
      Instant.readStrict_renderOffset updated⟩

/-- The creation of a server that is not there yet fails if no id is left, and else makes its row. -/
theorem create_fresh (held : db.table = some t) (fresh : address ∉ t.addresses) (now : Instant)
    (name : String) (status : Status) :
    (db.create now name address status = (.error (.database .createServer), db) ∧
      t.lastId = Int64.maxValue) ∨
    (db.create now name address status = (.ok ⟨t.lastId + 1, name, address, status, now, now⟩,
        { db with table := some (t.add (t.newRow now name address status)) }) ∧
      t.lastId ≠ Int64.maxValue) := by
  rcases t.create_cases now name address status with ⟨eq, full⟩ | ⟨-, taken⟩ | ⟨eq, -⟩
  · exact .inl ⟨by simp only [create, held, eq], full⟩
  · exact absurd taken fresh
  · exact .inr ⟨by simp only [create, held, eq], Table.room_of_create eq⟩

/-- A new server's record is kept. -/
theorem keeps_created (fresh : address ∉ t.addresses) (plain : now.HasPlainYear)
    (table : db'.table = some (t.add (t.newRow now name address status))) :
    db'.Keeps ⟨t.lastId + 1, name, address, status, now, now⟩ where
  row := ⟨_, table, Table.rowsOf_add_self fresh⟩
  plain := ⟨plain, plain⟩

/-- A record that is touched reads with its new status, and with the instant of the update. -/
theorem Keeps.touched (keeps : db.Keeps r) (plain : now.HasPlainYear)
    (selected : membership.IsFor listed r.address) (other : status ≠ r.status) :
    ∃ count db', db.setStatus now listed membership status = (.ok count, db') ∧
      db'.Reads { r with status, lastUpdated := now } := by
  obtain ⟨t, held, -⟩ := keeps.row
  refine ⟨_, _, setStatus_of_table held, ?_⟩
  rw [← marked_of_touched selected other]
  exact (keeps.updated held rfl plain).reads

theorem address_remake (r : Record) (incident : Incident) : (incident.remake r).address = r.address := by
  unfold Incident.remake
  split
  · exact address_marked
  · rfl

theorem address_remakes (r : Record) (incidents : List Incident) :
    (incidents.foldl Incident.remake r).address = r.address := by
  induction incidents generalizing r with
  | nil => rfl
  | cons incident rest ih => exact (ih _).trans (address_remake r incident)

theorem remakes_of_untouched (untouched : ∀ incident ∈ incidents, ¬ incident.Touches r) :
    incidents.foldl Incident.remake r = r := by
  induction incidents with
  | nil => rfl
  | cons incident rest ih =>
    obtain ⟨first, others⟩ := List.forall_mem_cons.mp untouched
    rw [List.foldl_cons, remake_of_untouched first]
    exact ih others

/-- **A record reads back as it was made.** A server that is not there yet is created as long as an id is left,
and whatever happens then, short of the loss of the table, its record is read by address and in the list in all
six parts as its creator was given it, until a status update touches it. From such an update on it reads with
the new status and with the instant at which that was written, to the nanosecond; and so on, update for
update. -/
theorem created_record_reads_back (held : db.table = some t) (fresh : address ∉ t.addresses)
    (plain : now.HasPlainYear) (name : String) (status : Status) :
    ((∃ r db', db.create now name address status = (.ok r, db')) ↔ t.lastId ≠ Int64.maxValue) ∧
    ∀ r db' incidents, db.create now name address status = (.ok r, db') →
      (∀ incident ∈ incidents, incident.Lasting db'.durable) →
      (r.name = name ∧ r.address = address ∧ r.status = status ∧ r.createdAt = now ∧
        r.lastUpdated = now) ∧
      ((∀ incident ∈ incidents, ¬ incident.Touches r) → (db'.after incidents).Reads r) ∧
      (db'.after incidents).Reads (incidents.foldl Incident.remake r) ∧
      ∀ later listed membership status', later.HasPlainYear → membership.IsFor listed address →
        status' ≠ (incidents.foldl Incident.remake r).status →
        ∃ count db'', (db'.after incidents).setStatus later listed membership status' = (.ok count, db'') ∧
          db''.Reads { incidents.foldl Incident.remake r with status := status', lastUpdated := later } := by
  rcases create_fresh held fresh now name status with ⟨creation, full⟩ | ⟨creation, room⟩
  · rw [creation]
    refine ⟨⟨fun ⟨r, db', made⟩ => ?_, absurd full⟩, fun r db' incidents made => ?_⟩ <;> cases made
  · rw [creation]
    refine ⟨⟨fun _ => room, fun _ => ⟨_, _, rfl⟩⟩, fun r db' incidents made lasting => ?_⟩
    cases made
    have keeps := (keeps_created fresh plain rfl).after lasting
    refine ⟨⟨rfl, rfl, rfl, rfl, rfl⟩, fun untouched => ?_, keeps.reads, ?_⟩
    · rw [remakes_of_untouched untouched] at keeps
      exact keeps.reads
    · intro later listed membership status' plain' selected other
      have named := address_remakes ⟨t.lastId + 1, name, address, status, now, now⟩ incidents
      rw [← show _ = address from named] at selected
      exact keeps.touched plain' selected other

/-- The last leap second before the year 10000, to its last nanosecond. -/
def lastMoment : Instant := (Instant.ofParts? 2932896 86399 1999999999).getD .epoch

/-- What happens after a server `c` was created: the others are put up, the database is opened again, and an
update for `c` fails. -/
def afterwards : List Incident :=
  [.call .epoch (.setStatus ["c"] .outside .up), .reopen, .update (· == 4) .epoch ["c"] .inside .down]

/-- A server is created beside two others that nobody can read, at the last possible moment. It reads back
whatever happens to the others, and when it is put down. -/
theorem last_created_reads_back :
    lastMoment.HasPlainYear ∧
    ∃ r db', pair.create lastMoment "c" "c" .up = (.ok r, db') ∧ r.lastUpdated = lastMoment ∧
      (db'.after afterwards).Reads r ∧
      ∃ count db'', (db'.after afterwards).setStatus .epoch ["a"] .outside .down = (.ok count, db'') ∧
        db''.Reads { r with status := .down, lastUpdated := .epoch } := by
  have plain : lastMoment.HasPlainYear := by decide +kernel
  have early : Instant.epoch.HasPlainYear := by decide +kernel
  have held : pair.table = some _ := rfl
  obtain ⟨success, reading⟩ := created_record_reads_back held (by decide : "c" ∉ _) plain "c" .up
  obtain ⟨r, db', made⟩ := success.mpr (by decide)
  have durable : db'.durable = true := by
    have same := durable_happen pair (.call lastMoment (.create "c" "c" .up))
    simp only [Incident.happen, run, made] at same
    exact same
  have broken : Incident.completed? (.update (· == 4) .epoch ["c"] .inside .down) = none := by decide
  have lasting : ∀ incident ∈ afterwards, incident.Lasting db'.durable := by
    rw [durable]
    simp only [afterwards, List.forall_mem_cons, List.not_mem_nil, false_implies, implies_true, and_true]
    refine ⟨⟨by simp, by simp, ?_⟩, ⟨by simp, by simp, ?_⟩, ⟨by simp, by simp, ?_⟩⟩
    · rintro _ ⟨⟩
      exact early
    · rintro _ ⟨⟩
    · intro u completed
      cases broken.symm.trans completed
  obtain ⟨⟨-, named, up, -, stamp⟩, untouched, -, touched⟩ := reading r db' afterwards made lasting
  have aside : ∀ incident ∈ afterwards, ¬ incident.Touches r := by
    simp only [afterwards, List.forall_mem_cons, List.not_mem_nil, false_implies, implies_true, and_true]
    refine ⟨?_, ?_, ?_⟩
    · rintro ⟨_, ⟨⟩, selected, -⟩
      exact selected (named ▸ List.mem_singleton.mpr rfl)
    · rintro ⟨_, ⟨⟩, -⟩
    · rintro ⟨u, completed, -⟩
      cases broken.symm.trans completed
  rw [remakes_of_untouched aside] at touched
  exact ⟨plain, r, db', made, stamp, untouched aside,
    touched .epoch ["a"] .outside .down early (by simp [Membership.IsFor]) (by simp [up])⟩

end Database
end Heartbeat.Store
