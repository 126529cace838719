import Heartbeat.Proofs.Pipeline.Daemon
import Heartbeat.Proofs.Record.Envelope
import Heartbeat.Proofs.Resolve.Step

/-! What one operation of a signal leaves in the tracker, the table and the cache. It adds no address but the
signal's own, and whatever the next operation relies on is true when it is reached: behind the mark the
address is in the tracker, behind the resolution it is in the table, and the record that goes on to the
cache and the archive is the record of this address, also where the cache has given it. -/
namespace Heartbeat
open Store (Table)
open Archive (Writer)

/-- A value that was written to the cache for a record of one of the addresses. -/
def CachedFor (addresses : List String) (pair : String × String) : Prop :=
  ∃ record : Record, pair = (cacheKey record.address, record.encodeCached) ∧
    record.address ∈ addresses

theorem CachedFor.mono {addresses more : List String} {pair : String × String}
    (cached : CachedFor addresses pair) (grown : addresses ⊆ more) : CachedFor more pair := by
  obtain ⟨record, eq, present⟩ := cached
  exact ⟨record, eq, grown present⟩

/-- What the cache answers under the key of an address is a record of this address, if it holds nothing
but what was written for records. -/
theorem record_of_hit {s : Services} {addresses : List String} {address : String} {record : Record}
    (known : ∀ entry ∈ s.cache.entries, CachedFor addresses (entry.1, entry.2.value))
    (hit : cachedRecord? (s.cacheGet (cacheKey address)).1 = some record) :
    record.address = address ∧ address ∈ addresses := by
  simp only [Services.cacheGet, Cache.Memory.get?] at hit
  split at hit
  · cases hit
  · cases found : s.cache.entries.lookup (cacheKey address) with
    | none => simp [found, cachedRecord?] at hit
    | some entry =>
      have member : (cacheKey address, entry) ∈ s.cache.entries := by
        obtain ⟨before, after, eq, -⟩ := List.lookup_eq_some_iff.mp found
        rw [eq]
        exact List.mem_append_right _ (.head _)
      obtain ⟨written, eq, present⟩ := known _ member
      simp only [Prod.mk.injEq, cacheKey_inj] at eq
      obtain ⟨rfl, value⟩ := eq
      simp only [found] at hit
      split at hit
      · simp only [cachedRecord?, value, Record.decodeCached?_encodeCached, Option.some.injEq] at hit
        exact ⟨by rw [hit], present⟩
      · cases hit

namespace ProcessPhase

/-- The store does what the next operation of a signal asks of it. -/
def Served (s : Services) (signal : Signal) : ProcessPhase → Prop
  | .resolve phase => phase.Served s signal.address
  | _ => True

instance (s : Services) (signal : Signal) : (phase : ProcessPhase) → Decidable (phase.Served s signal)
  | .resolve phase => inferInstanceAs (Decidable (phase.Served s signal.address))
  | .mark _ | .stamp _ | .cache .. | .submit .. | .count _ | .done _ => isTrue trivial

/-- The address of a signal has been seen and stored, and the record is its own. -/
structure Entered (signal : Signal) (seen addresses : List String) (record : Record) : Prop where
  seen : signal.address ∈ seen
  stored : signal.address ∈ addresses
  named : record.address = signal.address

/-- What has been seen to when the processing of a signal has come so far. It ends well. -/
def Backed (signal : Signal) (seen addresses : List String) : ProcessPhase → Prop
  | .mark step => step ≠ .done
  | .resolve (.done _) => False
  | .resolve .findAgain => signal.address ∈ seen ∧ signal.address ∈ addresses
  | .resolve _ => signal.address ∈ seen
  | .stamp resolved => Entered signal seen addresses resolved.record
  | .cache record _ | .submit record _ => Entered signal seen addresses record
  | .count processed => Entered signal seen addresses processed.record
  | .done result => ∃ processed, result = .ok processed ∧
      Entered signal seen addresses processed.record

variable {signal : Signal} {phase next : ProcessPhase} {seen addresses : List String} {s s' : Services}
  {t t' : Table}

theorem Entered.mono {seen' addresses' : List String} {record : Record}
    (entered : Entered signal seen addresses record) (marks : seen ⊆ seen')
    (rows : addresses ⊆ addresses') : Entered signal seen' addresses' record :=
  ⟨marks entered.seen, rows entered.stored, entered.named⟩

/-- What has been seen to stays so when marks and rows are added. -/
theorem Backed.mono {seen' addresses' : List String} (backed : phase.Backed signal seen addresses)
    (marks : seen ⊆ seen') (rows : addresses ⊆ addresses') : phase.Backed signal seen' addresses' := by
  cases phase with
  | mark => exact backed
  | resolve phase =>
    cases phase with
    | lookUp => exact marks backed
    | find => exact marks backed
    | create => exact marks backed
    | findAgain => exact ⟨marks backed.1, rows backed.2⟩
    | done => exact backed
  | stamp => exact Entered.mono backed marks rows
  | cache => exact Entered.mono backed marks rows
  | submit => exact Entered.mono backed marks rows
  | count => exact Entered.mono backed marks rows
  | done result =>
    obtain ⟨processed, eq, entered⟩ := backed
    exact ⟨processed, eq, entered.mono marks rows⟩

/-- What an operation of a signal does to the tracker, the table and the cache of a daemon. -/
structure Effect (signal : Signal) (s : Services) (t : Table) (phase next : ProcessPhase)
    (s' : Services) (t' : Table) : Prop where
  held : s'.database.table = some t'
  unique : t.addresses.Nodup → t'.addresses.Nodup
  kept : t.addresses ⊆ t'.addresses
  gained : ∀ address ∈ t'.addresses, address ∈ t.addresses ∨ address = signal.address
  seen : s.tracker.seen ⊆ s'.tracker.seen
  marked : ∀ address ∈ s'.tracker.seen, address ∈ s.tracker.seen ∨ address = signal.address
  backed : next.Backed signal s'.tracker.seen t'.addresses
  cached : ∀ entry ∈ s'.cache.entries,
    entry ∈ s.cache.entries ∨ (entry.1, entry.2.value) ∈ phase.writes s
  wrote : ∀ pair ∈ phase.writes s, CachedFor t'.addresses pair

/-- An operation that leaves the tracker, the table and the cache alone. -/
theorem Effect.aside (held : s.database.table = some t) (database : s'.database = s.database)
    (tracker : s'.tracker = s.tracker) (cache : s'.cache = s.cache) (silent : phase.writes s = [])
    (backed : next.Backed signal s.tracker.seen t.addresses) :
    Effect signal s t phase next s' t where
  held := by rw [database, held]
  unique := id
  kept _ := id
  gained _ := .inl
  seen := by rw [tracker]; exact fun _ => id
  marked address member := .inl (tracker ▸ member)
  backed := tracker ▸ backed
  cached entry member := .inl (cache ▸ member)
  wrote pair member := by rw [silent] at member; cases member

/-- An operation of the resolution. -/
theorem resolve_effect {phase : ResolvePhase} (quiet : s.disturbances = [])
    (held : s.database.table = some t) (served : phase.Served s signal.address)
    (known : ∀ entry ∈ s.cache.entries, CachedFor t.addresses (entry.1, entry.2.value))
    (backed : (resolve phase).Backed signal s.tracker.seen t.addresses) :
    ∃ t', Effect signal s t (.resolve phase) ((resolve phase).step Services.backend signal s).1
      ((resolve phase).step Services.backend signal s).2 t' := by
  obtain ⟨t', readings, move, left⟩ := ResolvePhase.step_served quiet held served
  simp only [step]
  generalize phase.step Services.backend signal.address s = after at move left
  obtain ⟨next, s'⟩ := after
  simp only at move left
  subst left
  -- every operation but a creation leaves the table as it is
  have read (backed : (afterResolve next).Backed signal s.tracker.seen t.addresses) (same : t' = t) :
      ∃ t'', Effect signal s t (.resolve phase) (afterResolve next) (s.withTable t' readings) t'' := by
    subst same
    exact ⟨t', ⟨rfl, id, fun _ => id, fun _ => .inl, fun _ => id, fun _ => .inl, backed,
      fun _ => .inl, fun _ written => by cases written⟩⟩
  cases move with
  | hit kept =>
    obtain ⟨named, present⟩ := record_of_hit known kept
    exact read ⟨backed, present, named⟩ rfl
  | miss => exact read backed rfl
  | found member named spelled =>
    obtain ⟨-, -, address_eq, -⟩ := Table.columns_of_record spelled
    exact read ⟨backed, Table.mem_addresses.mpr ⟨_, member, named⟩, address_eq.trans named⟩ rfl
  | absent => exact read backed rfl
  | @created now _ fresh =>
    have rows : (t.add (t.newRow now signal.address signal.address .up)).addresses.Perm
        (signal.address :: t.addresses) := Table.addresses_add
    refine ⟨_, ⟨rfl, fun unique => Table.nodup_add unique fresh, ?_, ?_, fun _ => id, fun _ => .inl, ?_,
      fun _ => .inl, fun _ written => by cases written⟩⟩
    · intro address present
      exact rows.mem_iff.mpr (.tail _ present)
    · intro address present
      rcases List.mem_cons.mp (rows.mem_iff.mp present) with here | there
      · exact .inr here
      · exact .inl there
    · exact ⟨backed, rows.mem_iff.mpr (.head _), rfl⟩
  | conflict taken => exact read ⟨backed, taken⟩ rfl
  | foundAgain member named spelled =>
    obtain ⟨-, -, address_eq, -⟩ := Table.columns_of_record spelled
    exact read ⟨backed.1, backed.2, address_eq.trans named⟩ rfl
  | vanished fresh => exact absurd backed.2 fresh
  | rest => exact absurd backed id

/-- **One operation of a signal**, in a daemon whose store does its work and whose archive still takes
documents: no address but the signal's own comes into the tracker and the table, and what the next
operation relies on is true. -/
theorem step_effect (quiet : s.disturbances = []) (held : s.database.table = some t)
    (running : s.archive.mode? ≠ none) (served : phase.Served s signal)
    (known : ∀ entry ∈ s.cache.entries, CachedFor t.addresses (entry.1, entry.2.value))
    (backed : phase.Backed signal s.tracker.seen t.addresses) :
    ∃ t', Effect signal s t phase (phase.step Services.backend signal s).1
      (phase.step Services.backend signal s).2 t' := by
  cases phase with
  | mark mark =>
    refine ⟨t, ?_⟩
    cases mark with
    | look =>
      simp only [step]
      by_cases present : Services.backend.isSeen signal.address s = true
      · rw [if_pos present]
        have seen : s.tracker.seen.contains signal.address = true := present
        exact .aside held rfl rfl rfl rfl (List.contains_iff_mem.mp seen)
      · rw [if_neg present]
        exact .aside held rfl rfl rfl rfl (by rintro ⟨⟩)
    | add =>
      refine ⟨held, id, fun _ => id, fun _ => .inl, ?_, ?_, ?_, fun _ => .inl,
        fun _ written => by cases written⟩
      · intro address present
        exact Tracker.mem_insert.mpr (.inr present)
      · intro address present
        exact (Tracker.mem_insert.mp present).symm
      · exact Tracker.mem_insert.mpr (.inl rfl)
    | done => exact absurd rfl backed
  | resolve phase => exact resolve_effect quiet held served known backed
  | stamp resolved =>
    have entered : Entered signal s.tracker.seen t.addresses resolved.record := backed
    exact ⟨t, .aside held rfl rfl rfl rfl ⟨entered.seen, entered.stored, entered.named⟩⟩
  | cache record resolution =>
    have entered : Entered signal s.tracker.seen t.addresses record := backed
    have stored : record.address ∈ t.addresses := entered.named ▸ entered.stored
    refine ⟨t, ?_⟩
    by_cases failing : s.cacheWriteFails
    · simp only [step, cacheRecord, Services.backend, Services.cacheSet, failing, if_true]
      exact .aside held rfl rfl rfl (if_pos failing) entered
    · simp only [step, cacheRecord, Services.backend, Services.cacheSet, failing]
      have writes : (cache record resolution).writes s =
          [(cacheKey record.address, record.encodeCached)] := if_neg failing
      refine ⟨held, id, fun _ => id, fun _ => .inl, fun _ => id, fun _ => .inl, entered, ?_, ?_⟩
      · intro entry member
        rcases List.mem_cons.mp member with rfl | old
        · exact .inr (by rw [writes]; exact .head _)
        · exact .inl (List.mem_of_mem_filter old)
      · intro pair member
        rw [writes, List.mem_singleton] at member
        exact ⟨record, member, stored⟩
  | submit record resolution =>
    have entered : Entered signal s.tracker.seen t.addresses record := backed
    simp only [step, Services.backend, Services.enqueue]
    rcases s.archive.enqueue_cases ⟨s.documentId s.documents, Document.ofSignal record signal⟩ with
      ⟨-, ended⟩ | queued
    · exact absurd ended running
    · rw [queued]
      exact ⟨t, .aside held rfl rfl rfl rfl entered⟩
  | count processed => exact ⟨t, .aside held rfl rfl rfl rfl ⟨processed, rfl, backed⟩⟩
  | done result => exact ⟨t, .aside held rfl rfl rfl rfl backed⟩

end ProcessPhase
end Heartbeat
