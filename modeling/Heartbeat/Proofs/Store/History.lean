import Mathlib.Data.List.Forall2
import Mathlib.Data.List.Induction
import Heartbeat.Proofs.Store.Listing
import Heartbeat.Store.Thread

/-! Histories of the store: what has become of a fresh database after any calls, while the clock goes forward.
The records stand in the order of their creation and are numbered from one; who a record is about never
changes, and the time of its last update tells whether its status did. -/
namespace Heartbeat
open Heartbeat.Time (Instant)

/-! ## The order of time -/

namespace Time.Instant

/-- Instants are ordered by day, then by second, then by nanosecond. A leap second comes behind the second
that it extends. -/
instance : LT Instant where
  lt left right := left.day < right.day ∨ (left.day = right.day ∧
    (left.second < right.second ∨ (left.second = right.second ∧ left.nano < right.nano)))

instance : LE Instant where
  le left right := left = right ∨ left < right

instance (left right : Instant) : Decidable (left < right) :=
  inferInstanceAs (Decidable (_ ∨ (_ ∧ (_ ∨ (_ ∧ _)))))

theorem ne_of_lt {left right : Instant} (before : left < right) : right ≠ left := by
  rintro rfl
  rcases before with day | ⟨-, second | ⟨-, nano⟩⟩
  · exact Int.lt_irrefl _ day
  · exact Nat.lt_irrefl _ second
  · exact Nat.lt_irrefl _ nano

end Time.Instant

/-! ## Two states of one record -/

/-- Two records are of the same server. -/
structure Record.Alike (r s : Record) : Prop where
  id : r.id = s.id
  name : r.name = s.name
  address : r.address = s.address
  createdAt : r.createdAt = s.createdAt

/-- What one call may make of a record. -/
structure Record.Continues (old new : Record) : Prop where
  alike : old.Alike new
  updated : new.lastUpdated ≠ old.lastUpdated ↔ new.status ≠ old.status

theorem Record.Continues.refl (r : Record) : r.Continues r :=
  ⟨⟨rfl, rfl, rfl, rfl⟩, ⟨fun changed => absurd rfl changed, fun changed => absurd rfl changed⟩⟩

theorem Record.Alike.trans {r s t : Record} (first : r.Alike s) (second : s.Alike t) : r.Alike t :=
  ⟨first.id.trans second.id, first.name.trans second.name, first.address.trans second.address,
    first.createdAt.trans second.createdAt⟩

namespace Store

variable {records records' : List Record} {past : List Instant} {now : Instant} {db : Database}
  {command : Command} {answer : Answer}

/-! ## What a call comes to -/

/-- The record that somebody is given who has created a server. -/
def Answer.created? : Answer → Option Record
  | .created (.ok record) => some record
  | _ => none

/-- Whether the clock is read for a command. -/
def Command.readsClock : Command → Bool
  | .create .. | .setStatus .. => true
  | .find _ | .list | .shutdown => false

/-- Everything that a call can come to, while the table holds these records. -/
inductive Turn (records : List Record) (now : Instant) : Command → Answer → List Record → Prop where
  /-- Nothing is asked to be created, and nothing changes. -/
  | rests {command : Command} {answer : Answer}
      (other : ∀ name address status, command ≠ .create name address status)
      (quiet : answer.created? = none) : Turn records now command answer records
  /-- No id is left. -/
  | exhausted (name address : String) (status : Status) (full : records.length = idsInAll) :
      Turn records now (.create name address status) (.created (.error (.database .createServer))) records
  | conflicts (name address : String) (status : Status) (held : address ∈ records.map Record.address) :
      Turn records now (.create name address status) (.created (.error (.conflict address))) records
  | creates (name address : String) (status : Status) (r : Record)
      (made : r = ⟨Int64.ofNat (records.length + 1), name, address, status, now, now⟩)
      (left : records.length < idsInAll) (fresh : address ∉ records.map Record.address) :
      Turn records now (.create name address status) (.created (.ok r)) (records ++ [r])
  | marks (addresses : List String) (membership : Membership) (status : Status) (count : Nat) :
      Turn records now (.setStatus addresses membership status) (.updated (.ok count))
        (records.map (Record.marked now addresses membership status))

/-- **A call does one of these things.** -/
theorem turn (held : db.table = some (.ofRecords records)) (numbered : Numbered records) (now : Instant)
    (command : Command) : ∃ records', (db.run now command).2.table = some (.ofRecords records') ∧
      Turn records now command (db.run now command).1 records' := by
  cases command with
  | create name address status =>
    simp only [Database.run, Database.create, held]
    rcases (Table.ofRecords records).create_cases now name address status with
      ⟨eq, full⟩ | ⟨eq, taken⟩ | ⟨eq, fresh⟩
    · rw [eq]
      have none : records.length = idsInAll := (Table.lastId_ofRecords numbered.enough).mp full
      exact ⟨records, held, .exhausted name address status none⟩
    · rw [eq]
      rw [Table.addresses_ofRecords] at taken
      exact ⟨records, held, .conflicts name address status taken⟩
    · have room : records.length < idsInAll := by
        refine Nat.lt_of_le_of_ne numbered.enough fun full => ?_
        exact Table.room_of_create eq ((Table.lastId_ofRecords numbered.enough).mpr full)
      rw [eq, Table.add_newRow numbered room]
      rw [Table.addresses_ofRecords] at fresh
      have next : (Table.ofRecords records).lastId + 1 = Int64.ofNat (records.length + 1) :=
        (Int64.ofNat_add records.length 1).symm
      exact ⟨_, rfl, .creates name address status _ (by rw [next]) room fresh⟩
  | find address =>
    simp only [Database.run, Database.find, held]
    exact ⟨records, rfl, .rests (by simp) rfl⟩
  | list =>
    simp only [Database.run, Database.list, held]
    exact ⟨records, rfl, .rests (by simp) rfl⟩
  | shutdown => exact ⟨records, held, .rests (by simp) rfl⟩
  | setStatus addresses membership status =>
    simp only [Database.run, Database.setStatus]
    rcases Database.setStatusFailing_cases held (fun _ => false) now addresses membership status with
      ⟨activity, eq⟩ | eq
    · rw [eq]
      exact ⟨records, held, .rests (by simp) rfl⟩
    · rw [eq, Table.update_ofRecords]
      exact ⟨_, rfl, .marks addresses membership status _⟩

/-- A creation that fails leaves no trace. -/
theorem create_failed {t : Table} (held : db.table = some t) {name address : String} {status : Status}
    {fault : Fault} (failed : (db.run now (.create name address status)).1 = .created (.error fault)) :
    (db.run now (.create name address status)).2 = db := by
  simp only [Database.run, Database.create, held] at failed ⊢
  split at failed
  · cases failed
  · rfl

/-- While an id is left, a creation fails if and only if the address is taken. -/
theorem Turn.conflict_iff {name address : String} {status : Status}
    (turn : Turn records now (.create name address status) answer records')
    (left : records.length < idsInAll) :
    (answer = .created (.error (.conflict address)) ↔ address ∈ records.map Record.address) ∧
      (address ∉ records.map Record.address → ∃ r, answer = .created (.ok r)) := by
  cases turn with
  | rests other => exact absurd rfl (other name address status)
  | exhausted _ _ _ full => exact absurd full (Nat.ne_of_lt left)
  | conflicts _ _ _ held => exact ⟨⟨fun _ => held, fun _ => rfl⟩, fun fresh => absurd held fresh⟩
  | creates _ _ _ r _ _ fresh => exact ⟨⟨nofun, fun held => absurd held fresh⟩, fun _ => ⟨r, rfl⟩⟩

/-! ## The invariant -/

/-- What is true of the records of a history in which the clock has been read at these times. -/
structure Regular (records : List Record) (past : List Instant) : Prop where
  numbered : Numbered records
  unique : (records.map Record.address).Nodup
  dated : ∀ r ∈ records, r.createdAt ∈ past ∧ r.lastUpdated ∈ past ∧ r.createdAt ≤ r.lastUpdated

theorem Regular.later (regular : Regular records past) (more : List Instant) :
    Regular records (past ++ more) where
  numbered := regular.numbered
  unique := regular.unique
  dated r mem := by
    obtain ⟨created, updated, order⟩ := regular.dated r mem
    exact ⟨List.mem_append_left more created, List.mem_append_left more updated, order⟩

/-- An update of a record at a time behind its last update shows in that time. -/
theorem continues_marked {r : Record} (before : r.lastUpdated < now) (addresses : List String)
    (membership : Membership) (status : Status) :
    r.Continues (r.marked now addresses membership status) := by
  unfold Record.marked
  split
  · rename_i written
    exact ⟨⟨rfl, rfl, rfl, rfl⟩, ⟨fun _ => written.1.symm, fun _ => Instant.ne_of_lt before⟩⟩
  · exact .refl r

theorem Regular.add (regular : Regular records past) {r : Record} (left : records.length < idsInAll)
    (id : r.id = Int64.ofNat (records.length + 1)) (fresh : r.address ∉ records.map Record.address)
    (created : r.createdAt = now) (updated : r.lastUpdated = now) :
    Regular (records ++ [r]) (past ++ [now]) where
  numbered := regular.numbered.append left id
  unique := by
    rw [List.map_append, List.map_singleton, List.nodup_append_comm]
    exact List.nodup_cons.mpr ⟨fresh, regular.unique⟩
  dated other mem := by
    rcases List.mem_append.mp mem with old | new
    · exact (regular.later [now]).dated other old
    · have here : now ∈ past ++ [now] := List.mem_append_right past (List.mem_singleton.mpr rfl)
      rw [List.mem_singleton.mp new, created, updated]
      exact ⟨here, here, .inl rfl⟩

theorem Regular.mark (regular : Regular records past) (later : ∀ before ∈ past, before < now)
    (addresses : List String) (membership : Membership) (status : Status) :
    Regular (records.map (Record.marked now addresses membership status)) (past ++ [now]) where
  numbered := regular.numbered.marked now addresses membership status
  unique := by
    rw [Record.map_marked fun _ _ _ => rfl]
    exact regular.unique
  dated r mem := by
    obtain ⟨old, present, rfl⟩ := List.mem_map.mp mem
    obtain ⟨created, updated, order⟩ := (regular.later [now]).dated old present
    unfold Record.marked
    split
    · have before : old.createdAt < now := later _ (regular.dated old present).1
      exact ⟨created, List.mem_append_right past (List.mem_singleton.mpr rfl), .inr before⟩
    · exact ⟨created, updated, order⟩

/-- **Every call keeps the records regular**, if it reads the clock later than all calls before it. -/
theorem Regular.turn (regular : Regular records past) (turn : Turn records now command answer records')
    (later : command.readsClock = true → ∀ before ∈ past, before < now) :
    Regular records' (past ++ if command.readsClock then [now] else []) := by
  cases turn with
  | rests => exact regular.later _
  | exhausted => exact regular.later _
  | conflicts => exact regular.later _
  | creates name address status r made left fresh =>
    subst made
    exact regular.add left rfl fresh rfl rfl
  | marks addresses membership status => exact regular.mark (later rfl) addresses membership status

/-- **No call changes who a record is about or takes one away**, and what it does to a record's status shows in
the time of the last update. -/
theorem Turn.continues (turn : Turn records now command answer records') (regular : Regular records past)
    (later : command.readsClock = true → ∀ before ∈ past, before < now) :
    ∃ kept, records' = kept ++ answer.created?.toList ∧
      List.Forall₂ Record.Continues records kept := by
  have same : List.Forall₂ Record.Continues records records :=
    List.forall₂_same.mpr fun r _ => .refl r
  cases turn with
  | rests _ quiet => exact ⟨records, by simp [quiet], same⟩
  | exhausted => exact ⟨records, (List.append_nil _).symm, same⟩
  | conflicts => exact ⟨records, (List.append_nil _).symm, same⟩
  | creates => exact ⟨records, rfl, same⟩
  | marks addresses membership status =>
    refine ⟨_, (List.append_nil _).symm, List.forall₂_map_right_iff.mpr ?_⟩
    refine List.forall₂_same.mpr fun r mem => ?_
    exact continues_marked (later rfl _ (regular.dated r mem).2.1) addresses membership status

/-! ## Histories -/

/-- A database, and the records that were given to those who created servers. -/
structure History where
  database : Database
  created : List Record := []

/-- What is left when a command has been carried out at some time. -/
def History.after (h : History) (call : Instant × Command) : History :=
  let (answer, database) := h.database.run call.1 call.2
  { database, created := h.created ++ answer.created?.toList }

def History.run (h : History) (calls : List (Instant × Command)) : History := calls.foldl after h

/-- The times at which the clock is read. -/
def readings (calls : List (Instant × Command)) : List Instant :=
  (calls.filter (·.2.readsClock)).map Prod.fst

/-- The clock goes forward from reading to reading, in years of four digits. -/
structure Orderly (calls : List (Instant × Command)) : Prop where
  ascending : (readings calls).Pairwise (· < ·)
  plain : ∀ now ∈ readings calls, now.HasPlainYear

theorem readings_append (calls : List (Instant × Command)) (now : Instant) (command : Command) :
    readings (calls ++ [(now, command)]) =
      readings calls ++ if command.readsClock then [now] else [] := by
  rw [readings, List.filter_append, List.map_append]
  cases reads : command.readsClock <;> simp [readings, reads]

variable {calls : List (Instant × Command)}

theorem Orderly.before (orderly : Orderly (calls ++ [(now, command)])) : Orderly calls ∧
    (command.readsClock = true → ∀ before ∈ readings calls, before < now) := by
  obtain ⟨ascending, plain⟩ := orderly
  rw [readings_append] at ascending plain
  obtain ⟨earlier, -, across⟩ := List.pairwise_append.mp ascending
  refine ⟨⟨earlier, fun time mem => plain time (List.mem_append_left _ mem)⟩, fun reads before mem => ?_⟩
  rw [if_pos reads] at across
  exact across before mem now (List.mem_singleton.mpr rfl)

namespace History

variable {h : History}

/-- What is true of a history. -/
structure Sound (h : History) (records : List Record) (past : List Instant) : Prop where
  table : h.database.table = some (.ofRecords records)
  regular : Regular records past
  created : List.Forall₂ Record.Alike h.created records

theorem Sound.after (sound : h.Sound records past)
    (table : (h.database.run now command).2.table = some (.ofRecords records'))
    (turn : Turn records now command (h.database.run now command).1 records')
    (later : command.readsClock = true → ∀ before ∈ past, before < now) :
    (h.after (now, command)).Sound records' (past ++ if command.readsClock then [now] else []) := by
  refine ⟨table, sound.regular.turn turn later, ?_⟩
  obtain ⟨kept, rfl, continues⟩ := turn.continues sound.regular later
  have alike : List.Forall₂ Record.Alike h.created kept :=
    forall₂_comp (fun made next => made.trans next.alike) sound.created continues
  exact List.rel_append alike (List.forall₂_same.mpr fun _ _ => ⟨rfl, rfl, rfl, rfl⟩)

/-- **Orderly calls keep a history sound.** -/
theorem sound_run (fresh : db.table = some {}) (orderly : Orderly calls) :
    ∃ records, (run { database := db } calls).Sound records (readings calls) := by
  induction calls using List.reverseRecOn with
  | nil => exact ⟨[], fresh, ⟨⟨rfl, Nat.zero_le _⟩, List.nodup_nil, List.forall_mem_nil _⟩, .nil⟩
  | append_singleton calls call ih =>
    obtain ⟨now, command⟩ := call
    obtain ⟨before, later⟩ := orderly.before
    obtain ⟨records, sound⟩ := ih before
    obtain ⟨records', table, turn⟩ := turn sound.table sound.regular.numbered now command
    rw [readings_append, run, List.foldl_append]
    exact ⟨records', sound.after table turn later⟩

/-- The records of a history can be listed. -/
theorem Sound.listed (sound : h.Sound records past) (plain : ∀ time ∈ past, time.HasPlainYear) :
    h.database.list.1 = .ok records := by
  have spelled : (Table.ofRecords records).list = .ok records := by
    refine Table.list_ofRecords fun r mem => ?_
    obtain ⟨created, updated, -⟩ := sound.regular.dated r mem
    exact ⟨plain _ created, plain _ updated⟩
  simp only [Database.list, sound.table, spelled]

end History

/-- A database that has just been opened has no servers. -/
theorem openAt_fresh {location : Database.Location} (opened : Database.openAt location = .ok db) :
    db.table = some {} := by
  cases location <;> cases opened <;> rfl

/-- **The history of a fresh database.** Whatever is asked of it while the clock goes forward, its records can
be listed: no two have the same address, their ids are the numbers from one in the order in which they were
created, each is about the server that its creator was told of, and none was updated before it was created.
One more call takes no record away and changes no record's id, name, address or time of creation; the time
of its last update changes if and only if its status does. A creation reports a conflict if and only if the
address is taken, as long as an id is left, and leaves no trace when it fails. -/
theorem history_is_kept {location : Database.Location} {h : History}
    (opened : Database.openAt location = .ok db) (orderly : Orderly calls)
    (led : ({ database := db } : History).run calls = h) :
    ∃ records, h.database.list.1 = .ok records ∧
      (records.map Record.address).Nodup ∧
      records.map (fun r => r.id.toInt) = (List.range' 1 records.length).map (fun n : Nat => (n : Int)) ∧
      List.Forall₂ Record.Alike h.created records ∧
      (∀ r ∈ records, r.createdAt ≤ r.lastUpdated) ∧
      ∀ now command, Orderly (calls ++ [(now, command)]) →
        (∃ kept, (h.database.run now command).2.list.1 =
            .ok (kept ++ (h.database.run now command).1.created?.toList) ∧
          List.Forall₂ Record.Continues records kept) ∧
        ∀ name address status, command = .create name address status →
          (records.length < idsInAll →
            ((h.database.run now command).1 = .created (.error (.conflict address)) ↔
              address ∈ records.map Record.address) ∧
            (address ∉ records.map Record.address →
              ∃ r, (h.database.run now command).1 = .created (.ok r))) ∧
          ∀ fault, (h.database.run now command).1 = .created (.error fault) →
            (h.database.run now command).2 = h.database := by
  obtain ⟨records, sound⟩ := History.sound_run (openAt_fresh opened) orderly
  rw [led] at sound
  have regular := sound.regular
  refine ⟨records, sound.listed orderly.plain, regular.unique, regular.numbered.counts, sound.created,
    fun r mem => (regular.dated r mem).2.2, fun now command further => ?_⟩
  obtain ⟨-, later⟩ := further.before
  obtain ⟨records', table, turn⟩ := turn sound.table regular.numbered now command
  have next := sound.after table turn later
  constructor
  · obtain ⟨kept, rfl, continues⟩ := turn.continues regular later
    exact ⟨kept, next.listed (readings_append calls now command ▸ further.plain), continues⟩
  · rintro name address status rfl
    exact ⟨turn.conflict_iff, fun fault failed => create_failed sound.table failed⟩

/-- A second of the first day of 1970. -/
def early (second : Nat) : Instant := (Instant.ofParts? 0 second 0).getD .epoch

/-- Two servers are created, a third creation is refused, and one server goes down. -/
def brief : List (Instant × Command) := [
  (early 1, .create "a" "a" .up), (early 2, .create "b" "a" .up), (early 3, .create "b" "b" .up),
  (early 0, .list), (early 4, .setStatus ["a"] .outside .down)]

def briefly : History := ({ database := { durable := false } } : History).run brief

/-- In a brief history two servers are listed, and neither can be created again. -/
theorem history_is_kept_briefly :
    Orderly (brief ++ [(early 5, .create "c" "a" .up)]) ∧
    (∃ records, briefly.database.list.1 = .ok records ∧ records.map (fun r => r.id.toInt) = [1, 2]) ∧
    (briefly.database.run (early 5) (.create "c" "a" .up)).1 = .created (.error (.conflict "a")) := by
  have opened : Database.openAt .memory = .ok { durable := false } := rfl
  have further : Orderly (brief ++ [(early 5, .create "c" "a" .up)]) :=
    ⟨by decide +kernel, by decide +kernel⟩
  obtain ⟨records, listed, -, ids, alike, -, next⟩ :=
    history_is_kept (h := briefly) opened further.before.1 rfl
  have size : records.length = 2 := alike.length_eq.symm
  have held : "a" ∈ records.map Record.address := by
    obtain ⟨first, others, same, -, rfl⟩ := List.forall₂_cons_left_iff.mp alike
    exact List.mem_cons.mpr (.inl same.address)
  obtain ⟨-, creation⟩ := next (early 5) (.create "c" "a" .up) further
  have left : records.length < idsInAll := by rw [size]; decide
  rw [size] at ids
  exact ⟨further, ⟨records, listed, ids⟩, ((creation "c" "a" .up rfl).1 left).1.mpr held⟩

end Store
end Heartbeat
