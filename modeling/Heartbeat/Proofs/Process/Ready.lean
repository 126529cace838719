import Heartbeat.Proofs.Cache.Authority
import Heartbeat.Proofs.Process.Footprint

/-! A signal in a daemon that is ready for it. Where the cache works, the archive is open and the store does what
it is asked, a signal comes through; where its record came from, and whether the store was called for it, is
settled by the look-up, and in the end the record stands in the cache as if it had just been found. -/
namespace Heartbeat
open Store (Table)

/-- The call is one to the store. -/
def BackendCall.ToStore : BackendCall → Prop
  | .find _ | .create .. | .setStatus .. => True
  | .cacheGet _ | .cacheSet .. => False

/-! ## The calls of a signal -/

section Calls

variable {σ : Type}

namespace Backend

@[simp]
theorem logged_mark (b : Backend σ) (address : String) (s : σ) (calls : List BackendCall) :
    b.logged.mark address (s, calls) = (b.mark address s, calls) :=
  (apply_ite (fun s => (s, calls)) (b.isSeen address s = true) s (b.addSeen address s)).symm

@[simp]
theorem logged_readClock (b : Backend σ) (p : σ × List BackendCall) :
    b.logged.readClock p = ((b.readClock p.1).1, (b.readClock p.1).2, p.2) := rfl

@[simp]
theorem logged_cacheSet (b : Backend σ) (key value : String) (p : σ × List BackendCall) :
    b.logged.cacheSet key value p =
      ((b.cacheSet key value p.1).1, (b.cacheSet key value p.1).2, p.2 ++ [.cacheSet key value]) := rfl

@[simp]
theorem logged_enqueue (b : Backend σ) (document : Document) (p : σ × List BackendCall) :
    b.logged.enqueue document p = ((b.enqueue document p.1).1, (b.enqueue document p.1).2, p.2) := rfl

end Backend

/-- A delivery writes the record into the cache, and asks for nothing else. -/
theorem deliver_logged (b : Backend σ) (signal : Signal) (resolved : Resolved) (s : σ)
    (calls : List BackendCall) :
    ∃ key value, deliver b.logged signal resolved (s, calls) =
      ((deliver b signal resolved s).1, (deliver b signal resolved s).2,
        calls ++ [.cacheSet key value]) := by
  simp only [deliver, cacheRecord, Backend.logged_readClock, Backend.logged_cacheSet,
    Backend.logged_enqueue]
  generalize ProcessPhase.refresh resolved.record (b.readClock s).1 = record
  refine ⟨cacheKey record.address, record.encodeCached, ?_⟩
  generalize b.enqueue (Document.ofSignal record signal)
    (b.cacheSet (cacheKey record.address) record.encodeCached (b.readClock s).2).2 = queued
  obtain ⟨_ | id, s'⟩ := queued <;> rfl

/-- The calls of a signal are those of its resolution, and a write into the cache if there is a record. -/
theorem process_logged (b : Backend σ) (signal : Signal) (s : σ) :
    ∃ asked written, process b.logged signal (s, []) =
        ((process b signal s).1, (process b signal s).2, asked ++ written) ∧
      Exit b signal.address (b.mark signal.address s) (resolve b signal.address (b.mark signal.address s)).1
        asked (resolve b signal.address (b.mark signal.address s)).2 ∧
      ∀ call ∈ written, ¬ call.ToStore := by
  obtain ⟨result, s', asked, plain, logged, exit⟩ :=
    resolve_exits b signal.address (b.mark signal.address s)
  rw [process_eq, process_eq, Backend.logged_mark, logged, plain]
  cases result with
  | error fault => exact ⟨asked, [], by simp, exit, by simp⟩
  | ok resolved =>
    obtain ⟨key, value, delivered⟩ := deliver_logged b signal resolved s' asked
    exact ⟨asked, [.cacheSet key value], delivered, exit, by simp [BackendCall.ToStore]⟩

end Calls

namespace Services

variable {s : Services} {signal : Signal} {address : String} {t : Table} {resolved : Resolved}

/-! ## A store that does its work -/

/-- The store does what a signal from the address needs: it can be searched, and it makes the record that is
missing, unless somebody else has made it first; then it is found. -/
structure Serves (s : Services) (address : String) : Prop where
  finds : ∀ fault, (s.find address).1 ≠ .error fault
  creates : ∀ fault, (s.find address).1 = .ok none →
    ((s.find address).2.create address address .up).1 = .error fault → ∃ taken, fault = .conflict taken
  findsAgain : ∀ taken, (s.find address).1 = .ok none →
    ((s.find address).2.create address address .up).1 = .error (.conflict taken) →
    ∃ record, (((s.find address).2.create address address .up).2.find address).1 = .ok (some record)

theorem Serves.found_of_lost {taken : String} {s₁ s₂ : Services} (serves : s.Serves address)
    (absent : s.find address = (.ok none, s₁))
    (lost : s₁.create address address .up = (.error (.conflict taken), s₂)) :
    ∃ record, (s₂.find address).1 = .ok (some record) := by
  obtain rfl : (s.find address).2 = s₁ := congrArg Prod.snd absent
  obtain rfl : ((s.find address).2.create address address .up).2 = s₂ := congrArg Prod.snd lost
  exact serves.findsAgain taken (congrArg Prod.fst absent) (congrArg Prod.fst lost)

/-- A store that nobody disturbs does its work, where it can read its row of the address and has an id left. -/
theorem serves_of_quiet (quiet : s.disturbances = []) (held : s.database.table = some t)
    (legible : ∀ fault, t.find address ≠ .error fault) (room : t.lastId ≠ Int64.maxValue) :
    s.Serves address := by
  have search : s.find address = (t.find address, s) := s.find_undisturbed quiet held
  have makes (absent : t.find address = .ok none) (fault : Store.Fault) :
      (s.create address address .up).1 ≠ .error fault := by
    have fresh : address ∉ t.addresses := by
      rcases t.find_cases address with ⟨-, fresh⟩ | ⟨_, -, -, -, fails⟩ | ⟨_, -, -, _, -, found⟩
      · exact fresh
      · exact absurd fails (legible _)
      · cases absent.symm.trans found
    rw [s.create_undisturbed quiet held]
    rcases t.create_cases (s.clock s.readings) address address .up with ⟨-, full⟩ | ⟨-, taken⟩ | ⟨made, -⟩
    · exact absurd full room
    · exact absurd taken fresh
    · simp [made]
  refine ⟨?_, fun fault absent failed => ?_, fun taken absent lost => ?_⟩
  · rw [search]
    exact legible
  · rw [search] at absent failed
    exact absurd failed (makes absent fault)
  · rw [search] at absent lost
    exact absurd lost (makes absent _)

/-- A resolution has a record to give, if the store does its work. -/
theorem resolve_of_serves (serves : s.Serves address) : ∃ resolved, (s.resolve address).1 = .ok resolved := by
  obtain ⟨result, s', calls, ends, -, exit⟩ := resolve_exits backend address s
  have first : (s.resolve address).1 = result := congrArg Prod.fst ends
  rw [first]
  cases exit with
  | hit => exact ⟨_, rfl⟩
  | cold missed exit =>
    have look : (backend.cacheGet (cacheKey address) s).2 = s := rfl
    rw [look] at exit
    cases exit with
    | stored | created | createdElsewhere => exact ⟨_, rfl⟩
    | unfindable failed => exact absurd (congrArg Prod.fst failed) (serves.finds _)
    | uncreatable absent failed other =>
      obtain rfl : (s.find address).2 = _ := congrArg Prod.snd absent
      obtain ⟨taken, same⟩ := serves.creates _ (congrArg Prod.fst absent) (congrArg Prod.fst failed)
      exact absurd same (other taken)
    | vanished absent lost gone =>
      obtain ⟨record, found⟩ := serves.found_of_lost absent lost
      cases found.symm.trans (congrArg Prod.fst gone)
    | unfindableAgain absent lost failed =>
      obtain ⟨record, found⟩ := serves.found_of_lost absent lost
      cases found.symm.trans (congrArg Prod.fst failed)

/-! ## Past the mark -/

/-- What disturbs a call may leave a mark, so two trackers may differ otherwise behind it; nothing else does. -/
theorem disturb_tracker (s : Services) (tracker : Tracker) (call : StoreCall) (address : String) :
    ∃ tracker', { s with tracker }.disturb call address =
      ((s.disturb call address).1, { (s.disturb call address).2 with tracker := tracker' }) := by
  unfold disturb
  simp only
  generalize takeFirst call s.disturbances = first
  obtain ⟨disturbance, rest⟩ := first
  cases disturbance <;> exact ⟨_, rfl⟩

/-- The store does not care for the tracker. -/
theorem storeAlike_tracker :
    Backend.StoreAlike backend backend fun s s' => ∃ tracker, s' = { s with tracker } where
  find := by
    rintro s _ ⟨tracker, rfl⟩ address
    obtain ⟨tracker', disturbed⟩ := s.disturb_tracker tracker .find address
    simp only [backend, find, disturbed]
    generalize s.disturb .find address = after
    obtain ⟨_ | fault, s'⟩ := after <;> exact ⟨rfl, tracker', rfl⟩
  create := by
    rintro s _ ⟨tracker, rfl⟩ name address status
    obtain ⟨tracker', disturbed⟩ := s.disturb_tracker tracker .create address
    simp only [backend, create, disturbed]
    generalize s.disturb .create address = after
    obtain ⟨_ | fault, s'⟩ := after <;> exact ⟨rfl, tracker', rfl⟩

/-- A signal is resolved as it would have been without its mark. -/
theorem resolve_mark (s : Services) (marked address : String) :
    ((backend.mark marked s).resolve address).1 = (s.resolve address).1 := by
  rw [backend_mark]
  cases kept : cachedRecord? (backend.cacheGet (cacheKey address) s).1 with
  | some record =>
    have hit := resolve_of_hit kept
    have hit' : Heartbeat.resolve backend address { s with tracker := s.tracker.mark marked } = _ :=
      resolve_of_hit kept
    rw [resolve, resolve, hit, hit']
  | none =>
    have missed : cachedRecord?
      (backend.cacheGet (cacheKey address) { s with tracker := s.tracker.mark marked }).1 = none := kept
    exact (resolve_alike storeAlike_tracker address kept missed ⟨_, rfl⟩).1.symm

/-! ## What a resolution gives -/

theorem address_of_find {record : Record} (found : (s.find address).1 = .ok (some record)) :
    record.address = address := by
  unfold find at found
  generalize s.disturb .find address = after at found
  obtain ⟨_ | fault, s'⟩ := after
  · simp only [Store.Database.find] at found
    split at found
    · cases found
    · rename_i t _
      rcases t.find_cases address with ⟨eq, -⟩ | ⟨_, -, -, -, eq⟩ | ⟨row, -, named, other, spelled, eq⟩
      · cases found.symm.trans eq
      · cases found.symm.trans eq
      · cases found.symm.trans eq
        exact (Table.columns_of_record spelled).2.2.1.trans named
  · cases found

theorem address_of_create {record : Record} (made : (s.create address address .up).1 = .ok record) :
    record.address = address := by
  unfold create at made
  generalize s.disturb .create address = after at made
  obtain ⟨_ | fault, s'⟩ := after
  · simp only [readClock, Store.Database.create] at made
    split at made
    · cases made
    · rename_i t _
      rcases t.create_cases (s'.clock s'.readings) address address .up with ⟨eq, -⟩ | ⟨eq, -⟩ | ⟨eq, -⟩
      · simp [eq] at made
      · simp [eq] at made
      · simp only [eq, Except.ok.injEq] at made
        rw [← made]
  · cases made

/-- What the store gives is a record of the address, and its search was a call to the store. -/
theorem asked_of_cold {result : Except ResolveFault Resolved} {calls : List BackendCall} {s' : Services}
    (exit : ColdExit backend address s result calls s') :
    .find address ∈ calls ∧ ∀ resolved, result = .ok resolved →
      resolved.record.address = address ∧ resolved.resolution ≠ .cache := by
  cases exit with
  | stored found =>
    refine ⟨.head _, ?_⟩
    rintro _ ⟨⟩
    exact ⟨address_of_find (congrArg Prod.fst found), by simp⟩
  | created absent made =>
    refine ⟨.head _, ?_⟩
    rintro _ ⟨⟩
    exact ⟨address_of_create (congrArg Prod.fst made), by simp⟩
  | createdElsewhere absent lost found =>
    refine ⟨.head _, ?_⟩
    rintro _ ⟨⟩
    exact ⟨address_of_find (congrArg Prod.fst found), by simp⟩
  | unfindable | uncreatable | vanished | unfindableAgain => exact ⟨.head _, by rintro _ ⟨⟩⟩

/-! ## One signal -/

/-- The daemon is ready for a signal from the address: its cache works, its archive is open and its store does
its work. -/
structure Ready (s : Services) (address : String) : Prop where
  reads : s.cacheReadFails = false
  writes : s.cacheWriteFails = false
  running : s.archive.phase ≠ .stopped
  serves : s.Serves address

/-- The calls to the cache and the store that a signal makes. -/
def calls (s : Services) (signal : Signal) : List BackendCall :=
  (Heartbeat.process backend.logged signal (s, [])).2.2

/-- A delivery that is taken leaves the record in the cache, under the key of its address and of this time. -/
theorem deliver_writes (signal : Signal) (resolved : Resolved) (writes : s.cacheWriteFails = false)
    (running : s.archive.phase ≠ .stopped) :
    ∃ processed, (deliver backend signal resolved s).1 = .ok processed ∧
      processed.resolution = resolved.resolution ∧
      processed.record.address = resolved.record.address ∧
      (deliver backend signal resolved s).2.cache =
        s.cache.set s.cacheTime (cacheKey processed.record.address) processed.record.encodeCached := by
  have read : backend.readClock s = (s.clock s.readings, { s with readings := s.readings + 1 }) := rfl
  have wrote (record : Record) (readings : Nat) :
      cacheRecord backend record { s with readings } = (.ok (), { s with
        readings, cache := s.cache.set s.cacheTime (cacheKey record.address) record.encodeCached }) :=
    if_neg (by simp [writes])
  simp only [deliver, read, wrote]
  simp only [backend, enqueue, Archive.Writer.enqueue?, running, if_false]
  exact ⟨_, rfl, rfl, rfl, rfl⟩

/-- Where the record of a signal came from, and what was called for it, by what the cache gave. -/
inductive Sourced (signal : Signal) (calls : List BackendCall) (processed : Processed) :
    Option Record → Prop where
  | hit {kept : Record} (cached : processed.resolution = .cache)
      (same : processed.record.address = kept.address) (spared : ∀ call ∈ calls, ¬ call.ToStore) :
      Sourced signal calls processed (some kept)
  | miss (stored : processed.resolution ≠ .cache) (named : processed.record.address = signal.address)
      (asked : .find signal.address ∈ calls) : Sourced signal calls processed none

/-- A signal that meets a daemon that is ready comes through, and leaves its record in the cache. -/
theorem process_ready (ready : s.Ready signal.address) :
    ∃ processed, (s.process signal).1 = .ok processed ∧
      (s.process signal).2.cache =
        s.cache.set s.cacheTime (cacheKey processed.record.address) processed.record.encodeCached ∧
      Sourced signal (s.calls signal) processed (s.cached? signal.address) := by
  obtain ⟨asked, written, logged, exit, aside⟩ := process_logged backend signal s
  have only := (s.backend_mark_storeOnly signal.address).trans
    ((backend.mark signal.address s).resolve_called signal.address).only
  -- the mark is nothing to the look-up, nor to the store
  have looked : (backend.mark signal.address s).cached? signal.address = s.cached? signal.address := by
    rw [backend_mark]
    rfl
  obtain ⟨resolved, found⟩ := resolve_of_serves ready.serves
  rw [← resolve_mark s signal.address] at found
  have called : s.calls signal = asked ++ written := congrArg (fun p => p.2.2) logged
  rw [process, process_eq, called, ← looked]
  rw [resolve] at only found
  generalize Heartbeat.resolve backend signal.address (backend.mark signal.address s) = after at *
  obtain ⟨result, s₂⟩ := after
  obtain rfl : result = .ok resolved := found
  have writes : s₂.cacheWriteFails = false := by cases only; exact ready.writes
  have running : s₂.archive.phase ≠ .stopped := by cases only; exact ready.running
  have cache : s₂.cache = s.cache := by cases only; rfl
  have time : s₂.cacheTime = s.cacheTime := by cases only; rfl
  obtain ⟨processed, delivered, source, named, left⟩ := deliver_writes signal resolved writes running
  rw [cache, time] at left
  refine ⟨processed, delivered, left, ?_⟩
  cases exit with
  | hit kept =>
    have given : (backend.mark signal.address s).cached? signal.address = some _ := kept
    rw [given]
    refine .hit source named fun call member => ?_
    rcases List.mem_append.mp member with looking | writing
    · obtain rfl := List.mem_singleton.mp looking
      exact id
    · exact aside call writing
  | cold missed exit =>
    have given : (backend.mark signal.address s).cached? signal.address = none := missed
    obtain ⟨search, gives⟩ := asked_of_cold exit
    obtain ⟨own, stored⟩ := gives resolved rfl
    rw [given]
    exact .miss (source ▸ stored) (named.trans own) (List.mem_append_left _ (.tail _ search))

end Services
end Heartbeat
