import Heartbeat.Proofs.Process.Line
import Heartbeat.Proofs.Record.Envelope
import Heartbeat.Proofs.Resolve.ColdCache

/-! What a signal leaves in a daemon. Its operations add a mark for its address and at most one row, whatever
disturbs them and however far they get. What else is left depends on the end: nothing if the address was not
resolved; a record in the cache, if it can be written, once it was; and a document in the archive, of this very
record, just if the signal came through. -/
namespace Heartbeat
open Store (Table)
open Time (Instant)

variable {s s' s'' : Services} {signal : Signal} {address : String}

namespace Services

/-! ## Marks and rows -/

/-- The daemon after operations of a signal from an address: no mark and no row is lost, no mark is added but
that of the address, and no row but one of the address. -/
structure Worked (address : String) (s s' : Services) : Prop where
  pending : s'.disturbances ⊆ s.disturbances
  kept : s.tracker.seen ⊆ s'.tracker.seen
  marked : ∀ other ∈ s'.tracker.seen, other = address ∨ other ∈ s.tracker.seen ∨ s.Awaits other
  rows : Table.Gained address s.Contested s.database.table s'.database.table

/-- Operations that leave the tracker, the store and its disturbances alone. -/
theorem Worked.aside (tracker : s'.tracker = s.tracker) (database : s'.database = s.database)
    (disturbances : s'.disturbances = s.disturbances) : s.Worked address s' where
  pending := disturbances ▸ fun _ => id
  kept := tracker ▸ fun _ => id
  marked _ member := .inr (.inl (tracker ▸ member))
  rows := database ▸ .same _

theorem Called.worked (called : s.Called address s') : s.Worked address s' where
  pending := called.pending
  kept := called.kept
  marked other member := .inr (called.arrived other member)
  rows := called.rows

theorem Worked.trans (first : s.Worked address s') (second : s'.Worked address s'') :
    s.Worked address s'' where
  pending := List.Subset.trans second.pending first.pending
  kept := List.Subset.trans first.kept second.kept
  marked other member := by
    rcases second.marked other member with own | before | ⟨call, later⟩
    · exact .inl own
    · exact first.marked other before
    · exact .inr (.inr ⟨call, first.pending later⟩)
  rows := first.rows.trans <| second.rows.mono fun ⟨call, member⟩ => ⟨call, first.pending member⟩

end Services

/-- One operation of a signal. -/
theorem ProcessPhase.step_worked (phase : ProcessPhase) (signal : Signal) (s : Services) :
    s.Worked signal.address (phase.step Services.backend signal s).2 := by
  cases phase with
  | mark mark =>
    cases mark with
    | look => exact .aside rfl rfl rfl
    | add =>
      refine ⟨fun _ => id, fun other seen => Tracker.mem_insert.mpr (.inr seen), fun other member => ?_,
        .same _⟩
      exact (Tracker.mem_insert.mp member).imp_right .inl
    | done => exact .aside rfl rfl rfl
  | resolve phase => exact (phase.step_called signal.address s).worked
  | stamp resolved => exact .aside rfl rfl rfl
  | cache record resolution =>
    simp only [step, cacheRecord, Services.backend, Services.cacheSet]
    split <;> exact .aside rfl rfl rfl
  | submit record resolution =>
    simp only [step, Services.backend, Services.enqueue]
    cases s.archive.enqueue? ⟨s.documentId s.documents, Document.ofSignal record signal⟩ with
    | none => exact .aside rfl rfl rfl
    | some archive => exact .aside rfl rfl rfl
  | count processed => exact .aside rfl rfl rfl
  | done result => exact .aside rfl rfl rfl

/-- Any number of operations of a signal. -/
theorem ProcessPhase.advance_worked (n : Nat) (phase : ProcessPhase) (signal : Signal) (s : Services) :
    s.Worked signal.address (phase.advance Services.backend signal n s).2 := by
  induction n generalizing phase s with
  | zero => exact .aside rfl rfl rfl
  | succ n ih => exact (phase.step_worked signal s).trans (ih _ _)

namespace Services

/-! ## What depends on the end -/

theorem backend_mark (s : Services) (address : String) :
    backend.mark address s = { s with tracker := s.tracker.mark address } := by
  by_cases seen : s.tracker.contains address
  · simp only [Backend.mark, backend, Tracker.mark, seen, if_true]
  · simp only [Backend.mark, backend, Tracker.mark, seen, Bool.false_eq_true, if_false]

/-- What has been delivered of a signal: its record, in the cache if it can be written, and its document. -/
structure Delivered (signal : Signal) (resolved : Resolved) (processed : Processed) (s s' : Services) :
    Prop where
  up : processed.record.status = .up
  id : processed.record.id = resolved.record.id
  name : processed.record.name = resolved.record.name
  address : processed.record.address = resolved.record.address
  createdAt : processed.record.createdAt = resolved.record.createdAt
  resolution : processed.resolution = resolved.resolution
  filed : s'.archive = { s.archive with
    queue := s.archive.queue ++
      [⟨processed.documentId, ⟨processed.record, signal.observedAt, signal.duration⟩⟩]
    stats := { s.archive.stats with submitted := s.archive.stats.submitted + 1 } }
  /-- What can be written into the cache stands there under the key of the record's address. -/
  cached : s.cacheWriteFails = false → ∃ entry,
    s'.cache.entries.lookup (cacheKey processed.record.address) = some entry ∧
      Record.decodeCached? entry.value = some processed.record
  /-- Nothing else is written there. -/
  others : ∀ key, key ≠ cacheKey processed.record.address ∨ s.cacheWriteFails = true →
    s'.cache.entries.lookup key = s.cache.entries.lookup key

/-- How the processing of a signal ends, and in what daemon. -/
inductive SignalEnds (signal : Signal) (s : Services) : Except ProcessFault Processed → Services → Prop where
  | unresolved {fault : ResolveFault} {s' : Services}
      (failed : ((backend.mark signal.address s).resolve signal.address).1 = .error fault)
      (cache : s'.cache = s.cache) (archive : s'.archive = s.archive) :
      SignalEnds signal s (.error (.resolve fault)) s'
  | closed {resolved : Resolved} {s' : Services}
      (found : ((backend.mark signal.address s).resolve signal.address).1 = .ok resolved)
      (stopped : s.archive.phase = .stopped) (archive : s'.archive = s.archive) :
      SignalEnds signal s (.error .archiveClosed) s'
  | delivered {resolved : Resolved} {processed : Processed} {s' : Services}
      (found : ((backend.mark signal.address s).resolve signal.address).1 = .ok resolved)
      (running : s.archive.phase ≠ .stopped) (delivered : Delivered signal resolved processed s s') :
      SignalEnds signal s (.ok processed) s'

/-- What a write leaves in the cache, if it is possible at all. -/
theorem cacheRecord_leaves (record : Record) (s : Services) :
    ∃ cache, (cacheRecord backend record s).2 = { s with cache } ∧
      (s.cacheWriteFails = false → ∃ entry, cache.entries.lookup (cacheKey record.address) = some entry ∧
        Record.decodeCached? entry.value = some record) ∧
      ∀ key, key ≠ cacheKey record.address ∨ s.cacheWriteFails = true →
        cache.entries.lookup key = s.cache.entries.lookup key := by
  by_cases fails : s.cacheWriteFails = true
  · have left : cacheRecord backend record s = (.error .backend, s) := if_pos fails
    exact ⟨s.cache, by rw [left], by simp [fails], fun _ _ => rfl⟩
  · have left : cacheRecord backend record s = (.ok (),
        { s with cache := s.cache.set s.cacheTime (cacheKey record.address) record.encodeCached }) :=
      if_neg fails
    refine ⟨s.cache.set s.cacheTime (cacheKey record.address) record.encodeCached, by rw [left],
      fun _ => ⟨_, Cache.Memory.lookup_set_self _ _ _ _, Record.decodeCached?_encodeCached record⟩, ?_⟩
    rintro key (other | impossible)
    · exact Cache.Memory.lookup_set_ne _ _ _ other
    · exact absurd impossible fails

/-- What a delivery comes to: the archive is closed, or has taken the document. -/
theorem deliver_ends (signal : Signal) (resolved : Resolved) (s : Services) :
    (s.archive.phase = .stopped ∧ (deliver backend signal resolved s).1 = .error .archiveClosed ∧
      (deliver backend signal resolved s).2.archive = s.archive) ∨
    (s.archive.phase ≠ .stopped ∧ ∃ processed, (deliver backend signal resolved s).1 = .ok processed ∧
      Delivered signal resolved processed s (deliver backend signal resolved s).2) := by
  obtain ⟨cache, wrote, cached, others⟩ :=
    cacheRecord_leaves (ProcessPhase.refresh resolved.record (s.clock s.readings))
      { s with readings := s.readings + 1 }
  have read : backend.readClock s = (s.clock s.readings, { s with readings := s.readings + 1 }) := rfl
  simp only [deliver, read, wrote]
  by_cases stopped : s.archive.phase = .stopped
  · refine .inl ⟨stopped, ?_⟩
    simp only [backend, enqueue, Archive.Writer.enqueue?, stopped, if_true]
    exact ⟨trivial, trivial⟩
  · refine .inr ⟨stopped, ?_⟩
    simp only [backend, enqueue, Archive.Writer.enqueue?, stopped, if_false]
    exact ⟨_, rfl, rfl, rfl, rfl, rfl, rfl, rfl, rfl, cached, others⟩

/-- A delivery after calls to the store is a delivery. -/
theorem Delivered.before {resolved : Resolved} {processed : Processed}
    (delivered : Delivered signal resolved processed s' s'') (only : s.StoreOnly s') :
    Delivered signal resolved processed s s'' := by
  cases only
  exact ⟨delivered.up, delivered.id, delivered.name, delivered.address, delivered.createdAt,
    delivered.resolution, delivered.filed, delivered.cached, delivered.others⟩

theorem backend_mark_storeOnly (s : Services) (address : String) :
    s.StoreOnly (backend.mark address s) := by
  rw [backend_mark]
  exact .mk _ s.database s.disturbances s.readings

/-- What the processing of a signal comes to. -/
theorem process_ends (s : Services) (signal : Signal) :
    SignalEnds signal s (s.process signal).1 (s.process signal).2 := by
  have only := (s.backend_mark_storeOnly signal.address).trans
    ((backend.mark signal.address s).resolve_called signal.address).only
  rw [process, process_eq]
  rcases ends : (backend.mark signal.address s).resolve signal.address with ⟨fault | resolved, s₁⟩
  · rw [ends] at only
    rw [resolve] at ends
    rw [ends]
    refine .unresolved (by rw [resolve, ends]) ?_ ?_ <;> (cases only; rfl)
  · rw [ends] at only
    rw [resolve] at ends
    rw [ends]
    have archive : s₁.archive = s.archive := by cases only; rfl
    rcases deliver_ends signal resolved s₁ with ⟨stopped, refused, left⟩ | ⟨running, processed, ok, delivered⟩
    · simp only [refused]
      exact .closed (by rw [resolve, ends]) (archive ▸ stopped) (left.trans archive)
    · simp only [ok]
      exact .delivered (by rw [resolve, ends]) (archive ▸ running) (delivered.before only)

/-! ## A cache that cannot be written -/

/-- A cache that is read in the same way does not matter to a resolution. -/
theorem resolve_setCaching (s : Services) (c : Caching) (address : String)
    (same : ((s.setCaching c).cacheGet (cacheKey address)).1 = (s.cacheGet (cacheKey address)).1) :
    (s.setCaching c).resolve address = ((s.resolve address).1, (s.resolve address).2.setCaching c) := by
  cases kept : cachedRecord? (s.cacheGet (cacheKey address)).1 with
  | some record =>
    have hit : s.resolve address = (.ok ⟨record, .cache⟩, s) := resolve_of_hit kept
    have hit' : (s.setCaching c).resolve address = (.ok ⟨record, .cache⟩, s.setCaching c) :=
      resolve_of_hit (same ▸ kept)
    rw [hit, hit']
  | none =>
    obtain ⟨result, left⟩ := resolve_alike (storeAlike_setCaching c) address (s := s) kept
      (same ▸ kept) rfl
    exact Prod.ext result.symm left

/-- A delivery leaves daemons that differ in their caches different in their caches alone. -/
theorem deliver_setCaching (s : Services) (c : Caching) (signal : Signal) (resolved : Resolved) :
    ∃ c', deliver backend signal resolved (s.setCaching c) =
      ((deliver backend signal resolved s).1, (deliver backend signal resolved s).2.setCaching c') := by
  let record := ProcessPhase.refresh resolved.record (s.clock s.readings)
  obtain ⟨cache, wrote, -⟩ := cacheRecord_leaves record { s with readings := s.readings + 1 }
  obtain ⟨cache', wrote', -⟩ :=
    cacheRecord_leaves record { s.setCaching c with readings := s.readings + 1 }
  have read : backend.readClock s = (s.clock s.readings, { s with readings := s.readings + 1 }) := rfl
  have read' : backend.readClock (s.setCaching c) =
    (s.clock s.readings, { s.setCaching c with readings := s.readings + 1 }) := rfl
  refine ⟨{ c with cache := cache' }, ?_⟩
  simp only [deliver, read, read']
  rw [wrote, wrote']
  simp only [backend, enqueue, setCaching]
  cases s.archive.enqueue? ⟨s.documentId s.documents, Document.ofSignal record signal⟩ <;> rfl

/-- The cache that a signal finds may refuse to be written: nothing else comes out differently. -/
theorem process_setCaching (s : Services) (c : Caching) (signal : Signal)
    (same : ((s.setCaching c).cacheGet (cacheKey signal.address)).1 =
      (s.cacheGet (cacheKey signal.address)).1) :
    ∃ c', (s.setCaching c).process signal =
      ((s.process signal).1, (s.process signal).2.setCaching c') := by
  have marked : backend.mark signal.address (s.setCaching c) =
      (backend.mark signal.address s).setCaching c := by
    rw [backend_mark, backend_mark]
    rfl
  have looked : (((backend.mark signal.address s).setCaching c).cacheGet (cacheKey signal.address)).1 =
      ((backend.mark signal.address s).cacheGet (cacheKey signal.address)).1 := by
    rw [backend_mark]
    exact same
  have resolved := resolve_setCaching (backend.mark signal.address s) c signal.address looked
  rw [process, process, process_eq, process_eq, marked]
  rw [resolve, resolve] at resolved
  rw [resolved]
  rcases Heartbeat.resolve backend signal.address (backend.mark signal.address s) with ⟨fault | found, s₁⟩
  · exact ⟨c, rfl⟩
  · exact deliver_setCaching s₁ c signal found

/-! ## The whole signal -/

/-- The mark comes first, and nothing takes it back. -/
theorem marked_of_process (s : Services) (signal : Signal) :
    signal.address ∈ (s.process signal).2.tracker.seen := by
  obtain ⟨i, -, start⟩ := ProcessPhase.advance_start backend signal 8 s
  have line : (s.process signal).2 = (ProcessPhase.advance backend signal (8 + i) (.resolve .lookUp)
      (backend.mark signal.address s)).2 := congrArg Prod.snd start
  rw [line]
  refine (ProcessPhase.advance_worked (8 + i) _ signal _).kept ?_
  rw [backend_mark]
  exact Tracker.mem_mark.mpr (.inl rfl)

/-- **What a signal leaves.** Its address is marked, and no mark and no row is lost or changed. At most one
row is added, of its address; it is the row of a new server that is up, unless a rival was faster. What is
left in the cache and in the archive goes with the end. A cache that refuses or takes the record makes no
difference to anything but the cache. -/
theorem process_leaves (s : Services) (signal : Signal) :
    signal.address ∈ (s.process signal).2.tracker.seen ∧
    s.Worked signal.address (s.process signal).2 ∧
    (∀ t, s.database.table = some t →
      ∃ t', (s.process signal).2.database.table = some t' ∧ t.rows.Sublist t'.rows ∧
        (s.Alone → t' = t ∨ ∃ now, signal.address ∉ t.addresses ∧
          t' = t.add (t.newRow now signal.address signal.address .up))) ∧
    SignalEnds signal s (s.process signal).1 (s.process signal).2 ∧
    ∀ fails, ∃ c, (s.setCaching { s.caching with writeFails := fails }).process signal =
      ((s.process signal).1, (s.process signal).2.setCaching c) := by
  have worked : s.Worked signal.address (s.process signal).2 :=
    ProcessPhase.advance_worked 10 .start signal s
  refine ⟨s.marked_of_process signal, worked, fun t held => ?_, s.process_ends signal, fun fails => ?_⟩
  · have rows := worked.rows
    rw [held] at rows
    obtain ⟨t', held', kept⟩ := rows.rows_sublist
    refine ⟨t', held', kept, fun alone => ?_⟩
    simpa only [held', Option.some.injEq] using rows.own_of_uncontested alone.not_contested
  · exact s.process_setCaching _ signal rfl

/-- A signal from an address that nobody knows. -/
def newcomer : Signal := ⟨"host", 7, 30⟩

/-- The record that a new server gets. -/
def newcomerRecord : Record := ⟨1, "host", "host", .up, .epoch, .epoch⟩

/-- A new server is marked, stored, cached and filed, and a cache that is down changes none of the rest. -/
theorem newcomer_is_filed :
    (plain.process newcomer).1 = .ok ⟨newcomerRecord, .created, ""⟩ ∧
    "host" ∈ (plain.process newcomer).2.tracker.seen ∧
    (∃ entry, (plain.process newcomer).2.cache.entries.lookup "server:host" = some entry ∧
      Record.decodeCached? entry.value = some newcomerRecord) ∧
    (plain.process newcomer).2.archive.queue = [⟨"", ⟨newcomerRecord, 7, 30⟩⟩] ∧
    ((plain.setCaching { plain.caching with writeFails := true }).process newcomer).1 =
      .ok ⟨newcomerRecord, .created, ""⟩ := by
  have ok : (plain.process newcomer).1 = .ok ⟨newcomerRecord, .created, ""⟩ := by decide +kernel
  obtain ⟨marked, -, -, ends, refusing⟩ := process_leaves plain newcomer
  obtain ⟨c, same⟩ := refusing true
  rw [ok] at ends
  cases ends with
  | delivered found running delivered =>
    exact ⟨ok, marked, delivered.cached rfl, congrArg Archive.Writer.queue delivered.filed,
      (congrArg Prod.fst same).trans ok⟩

end Services
end Heartbeat
