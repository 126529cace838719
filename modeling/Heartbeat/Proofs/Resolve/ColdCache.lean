import Heartbeat.Proofs.Pipeline.Daemon
import Heartbeat.Proofs.Resolve.Exits
import Heartbeat.Proofs.Resolve.Growth
import Heartbeat.Proofs.Resolve.Step

/-! A cache that fails is a cold cache. Whether the cache is down, holds a text that nobody can read or holds
nothing, a resolution asks the store the same questions and has the same end, whatever the store answers and
whatever others do to it in between. In a daemon, what is left of a resolution is the same as well; and where
nobody else writes rows, its end tells whether the address had one. -/
namespace Heartbeat
open Store (Table)
open Time (Instant)

/-- An answer of the cache that holds no record. -/
inductive Silent : Except Cache.Fault (Option String) → Prop where
  | failed (fault : Cache.Fault) : Silent (.error fault)
  | missing : Silent (.ok none)
  /-- The text is no envelope of the current version. -/
  | unreadable {text : String}
      (foreign : ∀ record, Envelope.layout.shape.parse (Text.encode text) ≠ .ok ⟨1, record⟩) :
      Silent (.ok (some text))

theorem decodeCached?_eq_some_iff {text : String} {record : Record} :
    Record.decodeCached? text = some record ↔
      Envelope.layout.shape.parse (Text.encode text) = .ok ⟨1, record⟩ := by
  unfold Record.decodeCached?
  generalize Envelope.layout.shape.parse (Text.encode text) = read
  cases read with
  | error fault => simp
  | ok envelope =>
    obtain ⟨version, found⟩ := envelope
    by_cases current : version = Envelope.currentVersion
    · subst current
      simp [Envelope.currentVersion]
    · have older : version ≠ 1 := current
      simp [current, older]

theorem silent_iff {answer : Except Cache.Fault (Option String)} :
    Silent answer ↔ cachedRecord? answer = none := by
  constructor
  · intro silent
    cases silent with
    | failed fault => rfl
    | missing => rfl
    | unreadable foreign =>
      exact Option.eq_none_iff_forall_ne_some.mpr fun record read =>
        foreign record (decodeCached?_eq_some_iff.mp read)
  · intro missed
    match answer, missed with
    | .error fault, _ => exact .failed fault
    | .ok none, _ => exact .missing
    | .ok (some text), missed =>
      refine .unreadable fun record read => ?_
      have kept : cachedRecord? (.ok (some text)) = some record := decodeCached?_eq_some_iff.mpr read
      simp [kept] at missed

namespace Services

variable {s : Services} {address : String} {t : Table}

/-! ## A daemon and its cache -/

/-- Everything about the cache of a daemon. -/
structure Caching where
  cache : Cache.Memory
  readFails : Bool
  writeFails : Bool
  /-- The time of the cache. -/
  time : Nat

def caching (s : Services) : Caching := ⟨s.cache, s.cacheReadFails, s.cacheWriteFails, s.cacheTime⟩

/-- The daemon with another cache. -/
def setCaching (s : Services) (c : Caching) : Services :=
  { s with cache := c.cache, cacheReadFails := c.readFails, cacheWriteFails := c.writeFails,
           cacheTime := c.time }

theorem disturb_setCaching (s : Services) (c : Caching) (call : StoreCall) (address : String) :
    (s.setCaching c).disturb call address =
      ((s.disturb call address).1, (s.disturb call address).2.setCaching c) := by
  unfold disturb
  simp only [setCaching]
  generalize takeFirst call s.disturbances = first
  obtain ⟨disturbance, rest⟩ := first
  cases disturbance <;> rfl

theorem find_setCaching (s : Services) (c : Caching) (address : String) :
    (s.setCaching c).find address = ((s.find address).1, (s.find address).2.setCaching c) := by
  unfold find
  rw [disturb_setCaching]
  generalize s.disturb .find address = after
  obtain ⟨fault | _, s'⟩ := after <;> rfl

theorem create_setCaching (s : Services) (c : Caching) (name address : String) (status : Status) :
    (s.setCaching c).create name address status =
      ((s.create name address status).1, (s.create name address status).2.setCaching c) := by
  unfold create
  rw [disturb_setCaching]
  generalize s.disturb .create address = after
  obtain ⟨fault | _, s'⟩ := after <;> rfl

/-- The store does not care for the cache. -/
theorem storeAlike_setCaching (c : Caching) :
    Backend.StoreAlike backend backend fun s s' => s' = s.setCaching c where
  find same address := by
    subst same
    simp only [backend, find_setCaching]
    exact ⟨trivial, trivial⟩
  create same name address status := by
    subst same
    simp only [backend, create_setCaching]
    exact ⟨trivial, trivial⟩

/-! ## A store that nobody else writes to -/

/-- A search that nobody else's row disturbs leaves the table alone, and tells what is in it. -/
theorem find_alone (alone : s.Alone) (held : s.database.table = some t) (address : String) :
    (s.find address).2.Alone ∧ (s.find address).2.database.table = some t ∧
      ((s.find address).1 = .ok none → address ∉ t.addresses) ∧
      ∀ record, (s.find address).1 = .ok (some record) → address ∈ t.addresses := by
  obtain ⟨waits, database⟩ := disturb_waits alone .find address
  unfold find
  generalize s.disturb .find address = disturbed at waits database ⊢
  obtain ⟨_ | fault, after⟩ := disturbed
  · have held' : after.database.table = some t := by rw [← held, ← database]
    simp only [Store.Database.find, held']
    refine ⟨waits.alone, trivial, ?_⟩
    rcases t.find_cases address with ⟨eq, fresh⟩ | ⟨_, -, -, -, eq⟩ | ⟨row, member, named, _, -, eq⟩
    · rw [eq]
      exact ⟨fun _ => fresh, by rintro _ ⟨⟩⟩
    · rw [eq]
      exact ⟨by rintro ⟨⟩, by rintro _ ⟨⟩⟩
    · rw [eq]
      exact ⟨by rintro ⟨⟩, fun _ _ => Table.mem_addresses.mpr ⟨row, member, named⟩⟩
  · exact ⟨waits.alone, database ▸ held, by rintro ⟨⟩, by rintro _ ⟨⟩⟩

/-- A creation that fails has left the table alone. -/
theorem create_failed (alone : s.Alone) (held : s.database.table = some t) {fault : Store.Fault}
    (failed : (s.create address address .up).1 = .error fault) :
    (s.create address address .up).2.Alone ∧
      (s.create address address .up).2.database.table = some t := by
  obtain ⟨waits, database⟩ := disturb_waits alone .create address
  unfold create at failed ⊢
  generalize s.disturb .create address = disturbed at waits database failed ⊢
  obtain ⟨_ | other, after⟩ := disturbed
  · have held' : after.database.table = some t := by rw [← held, ← database]
    simp only [readClock, Store.Database.create, held'] at failed ⊢
    refine ⟨waits.alone, ?_⟩
    split at failed
    · cases failed
    · exact held'
  · exact ⟨waits.alone, database ▸ held⟩

/-- How an address is resolved where nobody else writes rows: the cache knew it, or it had a row, or it got
one. -/
theorem resolution_alone {resolved : Resolved} (alone : s.Alone) (held : s.database.table = some t)
    (ok : (s.resolve address).1 = .ok resolved) :
    resolved.resolution = .cache ∧ ¬ Silent (s.cacheGet (cacheKey address)).1 ∨
      resolved.resolution = .store ∧ address ∈ t.addresses ∨
      resolved.resolution = .created ∧ address ∉ t.addresses := by
  obtain ⟨result, s', calls, ends, -, exit⟩ := resolve_exits backend address s
  obtain rfl : result = .ok resolved := by rw [← ok, resolve, ends]
  obtain ⟨alone₁, held₁, absent_tells, found_tells⟩ := find_alone alone held address
  cases exit with
  | hit kept =>
    refine .inl ⟨rfl, fun silent => ?_⟩
    cases (silent_iff.mp silent).symm.trans kept
  | cold missed exit =>
    refine .inr ?_
    cases exit with
    | @stored record s₁ found =>
      have answer : (s.find address).1 = .ok (some record) := congrArg Prod.fst found
      exact .inl ⟨rfl, found_tells record answer⟩
    | @created record s₁ s₂ absent made =>
      have answer : (s.find address).1 = .ok none := congrArg Prod.fst absent
      exact .inr ⟨rfl, absent_tells answer⟩
    | @createdElsewhere taken record s₁ s₂ s₃ absent lost found =>
      -- who loses the race finds a row that was not there before
      have answer : (s.find address).1 = .ok none := congrArg Prod.fst absent
      obtain rfl : (s.find address).2 = s₁ := congrArg Prod.snd absent
      obtain ⟨alone₂, held₂⟩ := create_failed alone₁ held₁ (congrArg Prod.fst lost)
      obtain rfl : ((s.find address).2.create address address .up).2 = s₂ := congrArg Prod.snd lost
      obtain ⟨-, -, -, found_again⟩ := find_alone alone₂ held₂ address
      exact absurd (found_again record (congrArg Prod.fst found)) (absent_tells answer)

/-- In an undisturbed store an address with a row that can be read is resolved to it. -/
theorem resolve_stored {row : Store.Row} {record : Record} (quiet : s.disturbances = [])
    (held : s.database.table = some t)
    (missed : cachedRecord? (s.cacheGet (cacheKey address)).1 = none)
    (found : t.row? address = some row) (spelled : row.record? = some record) :
    (s.resolve address).1 = .ok ⟨record, .store⟩ := by
  have answer : backend.find address s = (.ok (some record), s) := by
    simp only [backend, s.find_undisturbed quiet held, Table.find, found, spelled]
  have look : (backend.cacheGet (cacheKey address) s).2 = s := rfl
  rw [resolve, resolve_of_miss missed, look]
  simp only [ResolvePhase.advance, ResolvePhase.step, answer, ResolvePhase.afterFind,
    ResolvePhase.result]

/-- In an undisturbed store with an id left, an address without a row gets one. -/
theorem resolve_created (quiet : s.disturbances = []) (held : s.database.table = some t)
    (missed : cachedRecord? (s.cacheGet (cacheKey address)).1 = none)
    (fresh : address ∉ t.addresses) (room : t.lastId ≠ Int64.maxValue) :
    (s.resolve address).1 = .ok ⟨⟨t.lastId + 1, address, address, .up, s.clock s.readings,
      s.clock s.readings⟩, .created⟩ := by
  have absent : backend.find address s = (.ok none, s) := by
    simp only [backend, s.find_undisturbed quiet held, Table.find, Table.row?_eq_none.mpr fresh]
  have made : t.create (s.clock s.readings) address address .up =
      .ok (⟨t.lastId + 1, address, address, .up, s.clock s.readings, s.clock s.readings⟩,
        t.add (t.newRow (s.clock s.readings) address address .up)) := by
    rcases t.create_cases (s.clock s.readings) address address .up with ⟨-, full⟩ | ⟨-, taken⟩ | ⟨eq, -⟩
    · exact absurd full room
    · exact absurd taken fresh
    · exact eq
  have answer := s.create_undisturbed quiet held address address .up
  rw [made] at answer
  have look : (backend.cacheGet (cacheKey address) s).2 = s := rfl
  have creates : backend.create = create := rfl
  rw [resolve, resolve_of_miss missed, look]
  simp only [ResolvePhase.advance, ResolvePhase.step, absent, ResolvePhase.afterFind, creates, answer,
    ResolvePhase.afterCreate, ResolvePhase.result]

end Services

/-! ## Cold caches -/

/-- How a resolution takes the answers of its cache, over any store. -/
structure Backend.CacheOnlySaves {σ : Type} (b : Backend σ) (address : String) : Prop where
  /-- Without a record from the cache there is one result, with the same calls and the same store. -/
  silent : ∀ s answer other, Silent answer → Silent other →
    resolve (b.answering answer).logged address (s, []) =
      resolve (b.answering other).logged address (s, [])
  /-- A record from the cache is the result, and the store is not called. -/
  hit : ∀ s text record, Record.decodeCached? text = some record →
    resolve (b.answering (.ok (some text))).logged address (s, []) =
      (.ok ⟨record, .cache⟩, s, [.cacheGet (cacheKey address)])
  /-- A store that fails at first is not asked to create anything. -/
  failed : ∀ s answer fault s', Silent answer → b.find address s = (.error fault, s') →
    resolve (b.answering answer).logged address (s, []) =
      (.error (.store fault), s', [.cacheGet (cacheKey address), .find address])
  /-- The cache is never written, and the store is asked for nothing but these. -/
  calls : ∀ s, (resolve b.logged address (s, [])).2.2 <+:
    [.cacheGet (cacheKey address), .find address, .create address address .up, .find address]

/-- What a resolution does in a daemon, from wherever it stands. -/
structure Services.CacheOnlySaves (s : Services) (address : String) : Prop where
  /-- Two caches without a record lead to the same result, with the same calls, and to daemons that differ in
  the cache alone. -/
  silent : ∀ c, Silent (s.cacheGet (cacheKey address)).1 →
    Silent ((s.setCaching c).cacheGet (cacheKey address)).1 →
      (s.setCaching c).resolve address = ((s.resolve address).1, (s.resolve address).2.setCaching c) ∧
      (Heartbeat.resolve backend.logged address (s.setCaching c, [])).2.2 =
        (Heartbeat.resolve backend.logged address (s, [])).2.2
  /-- No operation writes the cache. -/
  cache : ∀ n (phase : ResolvePhase), (phase.advance Services.backend address n s).2.caching = s.caching
  /-- No operation changes a row, also where others write rows in between. -/
  rows : ∀ n (phase : ResolvePhase) t, s.database.table = some t →
    ∃ t', (phase.advance Services.backend address n s).2.database.table = some t' ∧
      t.rows.Sublist t'.rows
  /-- Where nobody else writes rows, the resolution tells whether there was one. -/
  alone : ∀ t resolved, s.Alone → s.database.table = some t → (s.resolve address).1 = .ok resolved →
    resolved.resolution ≠ .createdElsewhere ∧
      (Silent (s.cacheGet (cacheKey address)).1 →
        (resolved.resolution = .store ↔ address ∈ t.addresses) ∧
        (resolved.resolution = .created ↔ address ∉ t.addresses))
  /-- Undisturbed, a row that can be read is found. -/
  stored : ∀ t row record, s.disturbances = [] → s.database.table = some t →
    Silent (s.cacheGet (cacheKey address)).1 → t.row? address = some row →
      row.record? = some record → (s.resolve address).1 = .ok ⟨record, .store⟩
  /-- Undisturbed, a row that is not there is made, as long as there are ids. -/
  created : ∀ t, s.disturbances = [] → s.database.table = some t →
    Silent (s.cacheGet (cacheKey address)).1 → address ∉ t.addresses → t.lastId ≠ Int64.maxValue →
      (s.resolve address).1 = .ok ⟨⟨t.lastId + 1, address, address, .up, s.clock s.readings,
        s.clock s.readings⟩, .created⟩

theorem Backend.cacheOnlySaves {σ : Type} (b : Backend σ) (address : String) :
    b.CacheOnlySaves address where
  silent s answer other silent silent' := by
    obtain ⟨same, related, log⟩ := resolve_alike (b.storeAlike_answering answer other).logged
      address (s := (s, [])) (u := (s, [])) (silent_iff.mp silent) (silent_iff.mp silent') ⟨rfl, rfl⟩
    exact Prod.ext same (Prod.ext related log)
  hit s text record kept :=
    resolve_of_hit (b := (b.answering (.ok (some text))).logged) (s := (s, [])) kept
  failed s answer fault s' silent failed := by
    rw [resolve_of_miss (b := (b.answering answer).logged) (s := (s, [])) (silent_iff.mp silent)]
    simp only [ResolvePhase.advance, ResolvePhase.step, logged_cacheGet, logged_find, answering, failed,
      ResolvePhase.afterFind, ResolvePhase.result, List.nil_append, List.cons_append]
  calls s := by
    obtain ⟨result, s', calls, -, logged, exit⟩ := resolve_exits b address s
    rw [logged]
    exact exit.calls_prefix

theorem Services.StoreOnly.caching {s s' : Services} (only : s.StoreOnly s') : s'.caching = s.caching := by
  cases only
  rfl

theorem Services.cacheOnlySaves (s : Services) (address : String) : s.CacheOnlySaves address where
  silent c silent silent' := by
    obtain ⟨same, related⟩ := resolve_alike (storeAlike_setCaching c) address
      (silent_iff.mp silent) (silent_iff.mp silent') rfl
    obtain ⟨-, -, log⟩ := resolve_alike (storeAlike_setCaching c).logged address
      (s := (s, [])) (u := (s.setCaching c, [])) (silent_iff.mp silent) (silent_iff.mp silent') ⟨rfl, rfl⟩
    exact ⟨Prod.ext same.symm related, log.symm⟩
  cache n phase := (phase.advance_called n address s).only.caching
  rows n phase t held := by
    have rows := (phase.advance_called n address s).rows
    rw [held] at rows
    exact rows.rows_sublist
  alone t resolved alone held ok := by
    rcases resolution_alone alone held ok with ⟨eq, heard⟩ | ⟨eq, stored⟩ | ⟨eq, fresh⟩
    · rw [eq]
      exact ⟨by decide, fun silent => absurd silent heard⟩
    · rw [eq]
      exact ⟨by decide, fun _ => ⟨iff_of_true rfl stored, iff_of_false (by decide) (not_not_intro stored)⟩⟩
    · rw [eq]
      exact ⟨by decide, fun _ => ⟨iff_of_false (by decide) fresh, iff_of_true rfl fresh⟩⟩
  stored t row record quiet held silent found spelled :=
    resolve_stored quiet held (silent_iff.mp silent) found spelled
  created t quiet held silent fresh room :=
    resolve_created quiet held (silent_iff.mp silent) fresh room

/-- **A cache that fails is a cold cache.** Over any store, whatever it answers and whatever others do to it
before it answers, and in any daemon. -/
theorem faults_are_misses (address : String) :
    (∀ {σ : Type} (b : Backend σ), b.CacheOnlySaves address) ∧
      ∀ s : Services, s.CacheOnlySaves address :=
  ⟨fun b => b.cacheOnlySaves address, fun s => s.cacheOnlySaves address⟩

namespace Services

/-- A daemon whose cache holds an illegible text for the address `host`, and whom a rival is about to
forestall in the creation of its record. -/
def forestalled : Services :=
  { plain with
    disturbances := [(.create, .rival)]
    cache := ⟨1, [(cacheKey "host", ⟨"[]", 0⟩)]⟩ }

/-- A cache that is down. -/
def brokenCaching : Caching := ⟨⟨1, []⟩, true, true, 0⟩

/-- With an illegible text and with a cache that is down, the rival's record is found in the end. -/
theorem rival_is_found_past_faults :
    Silent (forestalled.cacheGet (cacheKey "host")).1 ∧
    Silent ((forestalled.setCaching brokenCaching).cacheGet (cacheKey "host")).1 ∧
    (forestalled.resolve "host").1 =
      .ok ⟨⟨1, "rival", "host", .down, .epoch, .epoch⟩, .createdElsewhere⟩ ∧
    ((forestalled.setCaching brokenCaching).resolve "host").1 =
      .ok ⟨⟨1, "rival", "host", .down, .epoch, .epoch⟩, .createdElsewhere⟩ ∧
    (Heartbeat.resolve backend.logged "host" (forestalled.setCaching brokenCaching, [])).2.2 =
      resolvePlan "host" := by
  have illegible : Silent (forestalled.cacheGet (cacheKey "host")).1 :=
    silent_iff.mpr (by decide +kernel)
  have down : Silent ((forestalled.setCaching brokenCaching).cacheGet (cacheKey "host")).1 :=
    silent_iff.mpr (by decide +kernel)
  have found : (forestalled.resolve "host").1 =
      .ok ⟨⟨1, "rival", "host", .down, .epoch, .epoch⟩, .createdElsewhere⟩ := by decide +kernel
  have asked : (Heartbeat.resolve backend.logged "host" (forestalled, [])).2.2 = resolvePlan "host" := by
    decide +kernel
  obtain ⟨same, calls⟩ := ((faults_are_misses "host").2 forestalled).silent brokenCaching illegible down
  exact ⟨illegible, down, found, by rw [same, found], calls.trans asked⟩

end Services
end Heartbeat
