import Heartbeat.Proofs.Process.Ready

/-! How long the cache spares the store. A signal finds its record in the cache exactly if the one before it
from the same address is not older than an entry may get, because every signal writes its record anew, under
the key of its own address, wherever the record came from. -/
namespace Heartbeat
open Store (Table)

/-! ## Runs -/

/-- What became of a signal: when it came, how it ended, and the calls that it made. Times are those of the
cache. -/
structure Reception where
  time : Nat
  signal : Signal
  result : Except ProcessFault Processed
  calls : List BackendCall

namespace Reception

/-- The record of the signal came from the cache. -/
def hit (r : Reception) : Bool := r.result.toOption.any (·.resolution == .cache)

/-- The receptions of an address. -/
def ofAddress (address : String) (history : List Reception) : List Reception :=
  history.filter (·.signal.address == address)

theorem ofAddress_cons_self (r : Reception) (history : List Reception) :
    ofAddress r.signal.address (r :: history) = r :: ofAddress r.signal.address history :=
  List.filter_cons_of_pos (beq_self_eq_true _)

theorem ofAddress_cons_ne {r : Reception} {address : String} (other : r.signal.address ≠ address)
    (history : List Reception) : ofAddress address (r :: history) = ofAddress address history :=
  List.filter_cons_of_neg (by simpa using other)

/-- The signal before this one from its address is not older than an entry may get. -/
def Follows (ttl : Nat) (r : Reception) (past : List Reception) : Prop :=
  ∃ last ∈ (ofAddress r.signal.address past).head?, r.time < last.time + ttl

/-- Which of the signals that come from an address at these times, the newest first, find a record. -/
def found (ttl : Nat) : List Nat → List Bool
  | [] => []
  | time :: earlier => earlier.head?.any (fun last => decide (time < last + ttl)) :: found ttl earlier

/-- Signals that follow each other closely all find a record, but for the first. -/
theorem found_of_close {ttl : Nat} {times : List Nat}
    (close : times.IsChain fun later earlier => later < earlier + ttl) :
    ∀ hit ∈ (found ttl times).dropLast, hit = true := by
  induction times with
  | nil => simp [found]
  | cons time earlier ih =>
    cases earlier with
    | nil => simp [found]
    | cons last before =>
      obtain ⟨near, close⟩ := List.isChain_cons_cons.mp close
      intro hit member
      rcases List.mem_cons.mp member with rfl | later
      · exact decide_eq_true near
      · exact ih close hit later

end Reception

open Reception (ofAddress)

/-- A daemon receives a signal. -/
def Services.reception (s : Services) (signal : Signal) : Reception where
  time := s.cacheTime
  signal := signal
  result := (s.process signal).1
  calls := s.calls signal

/-- The receptions of a daemon, newest first, whose cache started empty, and the cache that they have left.
Between two signals anything may happen that leaves the cache alone. -/
inductive ReceptionRun (ttl : Nat) : List Reception → Cache.Memory → Prop where
  | start : ReceptionRun ttl [] ⟨ttl, []⟩
  | next {history : List Reception} {s : Services} {signal : Signal} (run : ReceptionRun ttl history s.cache)
      (ready : s.Ready signal.address) :
      ReceptionRun ttl (s.reception signal :: history) (s.process signal).2.cache

/-- The entry is a record of the address, written when this signal came. -/
def LeftBy (address : String) (last : Reception) (entry : Cache.Entry) : Prop :=
  ∃ record : Record, record.address = address ∧ entry = ⟨record.encodeCached, last.time⟩

/-- The invariant: the cache has of every address what the last signal from it has left. -/
structure Renewed (ttl : Nat) (history : List Reception) (cache : Cache.Memory) : Prop where
  life : cache.ttl = ttl
  entries : ∀ address, Option.Rel (LeftBy address) (ofAddress address history).head?
    (cache.entries.lookup (cacheKey address))

namespace Renewed

variable {ttl : Nat} {history : List Reception} {s : Services} {signal : Signal} {address : String}

/-- What the cache gives for an address, if anything, is a record of it; and it gives one exactly if the last
signal is not older than an entry may get. -/
theorem cached (renewed : Renewed ttl history s.cache) (reads : s.cacheReadFails = false) (address : String) :
    (∀ record, s.cached? address = some record → record.address = address) ∧
      ((s.cached? address).isSome = true ↔
        ∃ last ∈ (ofAddress address history).head?, s.cacheTime < last.time + ttl) := by
  have answer : s.cached? address = cachedRecord? (.ok (s.cache.get? s.cacheTime (cacheKey address))) := by
    simp [Services.cached?, Services.cacheGet, reads]
  have left := renewed.entries address
  rw [answer, Cache.Memory.get?, renewed.life]
  generalize (ofAddress address history).head? = newest at left ⊢
  generalize s.cache.entries.lookup (cacheKey address) = held at left ⊢
  cases left with
  | none => simp [cachedRecord?]
  | @some last entry left =>
    obtain ⟨record, named, rfl⟩ := left
    by_cases alive : s.cacheTime < last.time + ttl
    · simp [alive, cachedRecord?, Record.decodeCached?_encodeCached, named]
    · simp [alive, cachedRecord?]

/-- **One signal** keeps the invariant: from wherever its record came, it is written anew. -/
theorem next (renewed : Renewed ttl history s.cache) (ready : s.Ready signal.address) :
    Renewed ttl (s.reception signal :: history) (s.process signal).2.cache := by
  obtain ⟨processed, -, left, source⟩ := Services.process_ready ready
  -- what a hit gives is of the address because its entry was
  have named : processed.record.address = signal.address := by
    obtain ⟨own, -⟩ := renewed.cached ready.reads signal.address
    generalize s.cached? signal.address = given at source own
    cases source with
    | hit cached same spared => exact same.trans (own _ rfl)
    | miss stored named asked => exact named
  rw [left, named]
  refine ⟨renewed.life, fun address => ?_⟩
  by_cases same : signal.address = address
  · subst same
    have own : ofAddress signal.address (s.reception signal :: history) =
        s.reception signal :: ofAddress signal.address history :=
      Reception.ofAddress_cons_self (s.reception signal) history
    rw [own, Cache.Memory.lookup_set_self]
    exact .some ⟨processed.record, named, rfl⟩
  · rw [Reception.ofAddress_cons_ne (r := s.reception signal) same,
      Cache.Memory.lookup_set_ne _ _ _ fun key => same (cacheKey_inj.mp key).symm]
    exact renewed.entries address

end Renewed

namespace ReceptionRun

variable {ttl : Nat} {history past : List Reception} {cache : Cache.Memory} {r : Reception}

theorem renewed (run : ReceptionRun ttl history cache) : Renewed ttl history cache := by
  induction run with
  | start => exact ⟨rfl, fun _ => .none⟩
  | next run ready renewed => exact renewed.next ready

/-- Any signal can come next, at any time. -/
theorem extend (run : ReceptionRun ttl history cache) (time : Nat) (signal : Signal) :
    ∃ r cache', ReceptionRun ttl (r :: history) cache' ∧ r.time = time ∧ r.signal = signal := by
  have serves : Services.Serves { Services.plain with cache, cacheTime := time } signal.address :=
    Services.serves_of_quiet (t := {}) rfl rfl (by rintro fault ⟨⟩) (by decide)
  have running : Services.plain.archive.phase ≠ .stopped := by decide
  exact ⟨_, _, .next (s := { Services.plain with cache, cacheTime := time }) run
    ⟨rfl, rfl, running, serves⟩, rfl, rfl⟩

/-- Every reception of a run was one by a daemon that was ready for it, after a run of its own. -/
theorem of_suffix (run : ReceptionRun ttl history cache) (before : r :: past <:+ history) :
    ∃ s signal, r = Services.reception s signal ∧ ReceptionRun ttl past s.cache ∧ s.Ready signal.address := by
  induction run with
  | start => cases List.suffix_nil.mp before
  | @next history s signal run ready ih =>
    rcases List.suffix_cons_iff.mp before with whole | later
    · obtain ⟨rfl, rfl⟩ := List.cons.inj whole
      exact ⟨s, signal, rfl, run, ready⟩
    · exact ih later

/-- What a signal comes to, anywhere in a run. -/
theorem received (run : ReceptionRun ttl history cache) (before : r :: past <:+ history) :
    ∃ processed, r.result = .ok processed ∧ (processed.resolution = .cache ↔ r.Follows ttl past) ∧
      (processed.resolution = .cache ↔ ∀ call ∈ r.calls, ¬ call.ToStore) := by
  obtain ⟨s, signal, rfl, run, ready⟩ := run.of_suffix before
  obtain ⟨processed, ok, -, source⟩ := Services.process_ready ready
  obtain ⟨-, given⟩ := run.renewed.cached ready.reads signal.address
  refine ⟨processed, ok, ?_⟩
  have follows : (s.reception signal).Follows ttl past ↔ (s.cached? signal.address).isSome = true := given.symm
  rw [follows]
  generalize s.cached? signal.address = kept at source
  cases source with
  | hit cached same spared => exact ⟨iff_of_true cached rfl, iff_of_true cached spared⟩
  | miss stored named asked =>
    exact ⟨iff_of_false stored (by simp), iff_of_false stored fun spared => spared _ asked trivial⟩

theorem hit_iff (run : ReceptionRun ttl history cache) (before : r :: past <:+ history) :
    r.hit = true ↔ r.Follows ttl past := by
  obtain ⟨processed, ok, follows, -⟩ := run.received before
  rw [← follows, Reception.hit, ok]
  exact beq_iff_eq

/-- **Which signals of an address find a record is a matter of their own times.** -/
theorem map_hit (run : ReceptionRun ttl history cache) (address : String) :
    (ofAddress address history).map Reception.hit =
      Reception.found ttl ((ofAddress address history).map Reception.time) := by
  induction run with
  | start => rfl
  | @next history s signal run ready ih =>
    -- only a signal from the address adds to either list, and it is compared with the one before it
    have newest := (run.next ready).hit_iff (List.suffix_refl _)
    by_cases same : signal.address = address
    · subst same
      have own : ofAddress signal.address (s.reception signal :: history) =
          s.reception signal :: ofAddress signal.address history :=
        Reception.ofAddress_cons_self (s.reception signal) history
      rw [own, List.map_cons, List.map_cons, Reception.found, ih]
      refine congrArg (· :: _) (Bool.eq_iff_iff.mpr (newest.trans ?_))
      simp only [Reception.Follows, List.head?_map, Option.any_map, Option.any_eq_true, decide_eq_true_eq]
      rfl
    · have others := Reception.ofAddress_cons_ne (r := s.reception signal) same history
      rw [others, ih]

/-- **The cache stays fresh over runs.** Whatever signal comes, it comes through. Its record comes from the
cache exactly if the last signal before it from the same address is not older than an entry may get, and only
the others call the store. Signals of an address that follow each other closely keep its entry alive, however
many they are; and which of them find a record depends on when they come alone, whatever other addresses
send. -/
theorem cache_stays_fresh (run : ReceptionRun ttl history cache) :
    (∀ time signal, ∃ r cache', ReceptionRun ttl (r :: history) cache' ∧ r.time = time ∧ r.signal = signal) ∧
    (∀ r past, r :: past <:+ history → ∃ processed, r.result = .ok processed ∧
      (processed.resolution = .cache ↔ ∃ last,
        past.find? (·.signal.address == r.signal.address) = some last ∧ r.time < last.time + ttl) ∧
      ((∃ call ∈ r.calls, call.ToStore) ↔ processed.resolution ≠ .cache)) ∧
    (∀ address, ((ofAddress address history).map Reception.time).IsChain
        (fun later earlier => later < earlier + ttl) →
      ∀ r ∈ (ofAddress address history).dropLast, r.hit = true) ∧
    ∀ address history' cache', ReceptionRun ttl history' cache' →
      (ofAddress address history').map Reception.time = (ofAddress address history).map Reception.time →
      (ofAddress address history').map Reception.hit = (ofAddress address history).map Reception.hit := by
  refine ⟨run.extend, fun r past before => ?_, fun address close r member => ?_,
    fun address history' cache' run' same => ?_⟩
  · obtain ⟨processed, ok, follows, spared⟩ := run.received before
    refine ⟨processed, ok, ?_, ?_⟩
    · rw [follows, Reception.Follows, ofAddress, List.head?_filter]
      rfl
    · rw [Ne, spared, not_forall]
      simp
  · have hits := Reception.found_of_close close
    rw [← run.map_hit, ← List.map_dropLast] at hits
    exact hits r.hit (List.mem_map_of_mem member)
  · rw [run'.map_hit, run.map_hit, same]

end ReceptionRun

/-! ## A host that calls four times -/

open Services (hostSignal hostTable)

/-- A daemon whose cache keeps entries for ten milliseconds, after signals of a host at these times, the newest
first. -/
def called : List Nat → Services
  | [] => { Services.plain with cache := ⟨10, []⟩ }
  | time :: earlier => ({ called earlier with cacheTime := time }.process hostSignal).2

/-- What became of these signals. -/
def receptions : List Nat → List Reception
  | [] => []
  | time :: earlier => { called earlier with cacheTime := time }.reception hostSignal :: receptions earlier

theorem time_receptions (times : List Nat) : (receptions times).map Reception.time = times := by
  induction times with
  | nil => rfl
  | cons time earlier ih => exact congrArg (time :: ·) ih

theorem ofAddress_receptions (times : List Nat) : ofAddress "host" (receptions times) = receptions times := by
  induction times with
  | nil => rfl
  | cons time earlier ih =>
    have own : ofAddress "host" (receptions (time :: earlier)) = _ :=
      Reception.ofAddress_cons_self ({ called earlier with cacheTime := time }.reception hostSignal) _
    rw [own]
    exact congrArg _ ih

/-- Another signal of the host, in a store that nobody disturbs. -/
theorem run_receptions {time : Nat} {earlier : List Nat} (t : Table)
    (run : ReceptionRun 10 (receptions earlier) (called earlier).cache)
    (undisturbed : (called earlier).disturbances = [] ∧ (called earlier).cacheReadFails = false ∧
      (called earlier).cacheWriteFails = false ∧ (called earlier).archive.phase ≠ .stopped)
    (held : (called earlier).database.table = some t)
    (serves : (t.find "host").isOk = true ∧ t.lastId ≠ Int64.maxValue) :
    ReceptionRun 10 (receptions (time :: earlier)) (called (time :: earlier)).cache := by
  obtain ⟨quiet, reads, writes, running⟩ := undisturbed
  obtain ⟨legible, room⟩ := serves
  refine .next (s := { called earlier with cacheTime := time }) run
    ⟨reads, writes, running, Services.serves_of_quiet quiet held (fun fault fails => ?_) room⟩
  have unread : t.find "host" = .error fault := fails
  rw [unread] at legible
  cases legible

/-- The second and the third signal come close behind another and find the record; the fourth comes late. -/
theorem late_signal_calls_store :
    (∀ r ∈ (receptions [12, 6, 0]).dropLast, r.hit = true) ∧
    ∃ r past processed, receptions [22, 12, 6, 0] = r :: past ∧ r.result = .ok processed ∧
      processed.resolution ≠ .cache ∧ ∃ call ∈ r.calls, call.ToStore := by
  have first : ReceptionRun 10 (receptions [0]) (called [0]).cache :=
    run_receptions {} .start (by decide +kernel) rfl (by decide +kernel)
  have second : ReceptionRun 10 (receptions [6, 0]) (called [6, 0]).cache :=
    run_receptions hostTable first (by decide +kernel) (by decide +kernel) (by decide +kernel)
  have third : ReceptionRun 10 (receptions [12, 6, 0]) (called [12, 6, 0]).cache :=
    run_receptions hostTable second (by decide +kernel) (by decide +kernel) (by decide +kernel)
  have fourth : ReceptionRun 10 (receptions [22, 12, 6, 0]) (called [22, 12, 6, 0]).cache :=
    run_receptions hostTable third (by decide +kernel) (by decide +kernel) (by decide +kernel)
  obtain ⟨-, -, close, -⟩ := third.cache_stays_fresh
  obtain ⟨-, each, -⟩ := fourth.cache_stays_fresh
  obtain ⟨processed, ok, follows, asked⟩ := each _ (receptions [12, 6, 0]) (List.suffix_refl _)
  have late : processed.resolution ≠ .cache := by
    intro cached
    obtain ⟨last, newest, near⟩ := follows.mp cached
    cases newest
    exact absurd near (by decide)
  refine ⟨?_, _, _, processed, rfl, ok, late, asked.mpr late⟩
  have hits := close "host"
  rw [ofAddress_receptions, time_receptions] at hits
  exact hits (by decide)

end Heartbeat
