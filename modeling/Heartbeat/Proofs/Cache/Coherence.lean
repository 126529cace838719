import Mathlib.Logic.Function.Iterate
import Mathlib.Logic.Relation
import Heartbeat.Proofs.Cache.Faults
import Heartbeat.Proofs.Pipeline.Daemon

/-! A cache that started empty says what the store says. Signals and sweeps take their operations in any
order, entries of the cache expire, and any call to the cache or the store can fail. The invariant covers
the signals under way: whoever holds a record that it will cache later holds the id, name, address and
creation of a row, and nothing that can come in between changes these. -/
namespace Heartbeat
open Store (Table)

/-! ## Signals under way -/

/-- A signal that is worked on, and what it has had written so far. -/
structure Errand where
  signal : Signal
  phase : ProcessPhase := .start
  receipts : Receipts := {}

namespace Errand

/-- A record of the signal's server, of which the table has a row. -/
def Known (signal : Signal) (t : Table) (record : Record) : Prop :=
  record.address = signal.address ∧ t.Holds record

/-- The signal has given exactly this record to the cache, and had exactly these documents archived. -/
def Wrote (signal : Signal) (record : Record) (filed : List Archive.Item) (receipts : Receipts) :
    Prop :=
  (∃ answer, receipts.cached = [((cacheKey signal.address, record.encodeCached), answer)]) ∧
    receipts.filed = filed

/-- What a signal holds is true of the table, and it has written what it holds. -/
def Sound (t : Table) (errand : Errand) : Prop :=
  match errand.phase with
  | .mark _ => errand.receipts = {}
  | .resolve (.done _) => False
  | .resolve _ => errand.receipts = {}
  | .stamp resolved => Known errand.signal t resolved.record ∧ errand.receipts = {}
  | .cache record _ => Known errand.signal t record ∧ record.status = .up ∧ errand.receipts = {}
  | .submit record _ => Known errand.signal t record ∧ Wrote errand.signal record [] errand.receipts
  | .count processed | .done (.ok processed) =>
    Known errand.signal t processed.record ∧
      Wrote errand.signal processed.record
        [⟨processed.documentId, Document.ofSignal processed.record errand.signal⟩] errand.receipts
  | .done (.error _) => True

variable {signal : Signal} {t t' : Table} {s : Services} {receipts : Receipts} {record : Record}

theorem Known.extend (known : Known signal t record) (extended : t.Extends t') :
    Known signal t' record :=
  ⟨known.1, known.2.extend extended⟩

/-- What a signal holds stays true. -/
theorem Sound.extend {errand : Errand} (sound : errand.Sound t) (extended : t.Extends t') :
    errand.Sound t' := by
  obtain ⟨signal, phase, receipts⟩ := errand
  cases phase with
  | mark => exact sound
  | resolve phase => cases phase <;> exact sound
  | stamp => exact ⟨sound.1.extend extended, sound.2⟩
  | cache => exact ⟨sound.1.extend extended, sound.2⟩
  | submit => exact ⟨sound.1.extend extended, sound.2⟩
  | count => exact ⟨sound.1.extend extended, sound.2⟩
  | done result =>
    cases result with
    | ok => exact ⟨sound.1.extend extended, sound.2⟩
    | error => trivial

/-- The signal has its next operation done. -/
def perform (fates : Fates) (s : Services) (errand : Errand) : Errand × Services :=
  let (phase, services, receipts) :=
    errand.phase.step (Services.backendAmid fates) errand.signal (s, errand.receipts)
  ({ errand with phase, receipts }, services)

/-- Where nothing fails, an operation of a signal is the daemon's own. -/
theorem perform_served (s : Services) (errand : Errand) :
    ((errand.perform {} s).1.phase, (errand.perform {} s).2) =
      errand.phase.step Services.backend errand.signal s := by
  obtain ⟨signal, phase, receipts⟩ := errand
  cases phase with
  | mark mark => cases mark <;> rfl
  | resolve phase => cases phase <;> rfl
  | submit record =>
    simp only [perform, ProcessPhase.step, Services.backendAmid, Services.backend, Services.enqueue]
    cases s.archive.enqueue? ⟨s.documentId s.documents, Document.ofSignal record signal⟩ <;> rfl
  | _ => rfl

/-- After an operation the daemon is coherent over a table that extends the one before, of which the
signal holds what is true. -/
def Settles (t : Table) (after : Errand × Services) : Prop :=
  ∃ t', after.2.Coherent t' ∧ t.Extends t' ∧ after.1.Sound t'

/-- An operation of the resolution is a call, and what follows from its answer. -/
private theorem settles_of_tells {ε α : Type} {told : α → Table → Prop}
    {after : Except ε α × Services} {next : Except ε α → ResolvePhase}
    (tells : Services.Tells t told after)
    (follows : ∀ t' answer, (∀ value, answer = .ok value → told value t') →
      Sound t' ⟨signal, ProcessPhase.afterResolve (next answer), receipts⟩) :
    Settles t (⟨signal, ProcessPhase.afterResolve (next after.1), receipts⟩, after.2) := by
  obtain ⟨t', coherent', extended, answered⟩ := tells
  exact ⟨t', coherent', extended, follows t' after.1 answered⟩

/-- An operation of the resolution. -/
private theorem resolve_settles (coherent : s.Coherent t) (fates : Fates) {phase : ResolvePhase}
    (sound : Sound t ⟨signal, .resolve phase, receipts⟩) :
    Settles t (perform fates s ⟨signal, .resolve phase, receipts⟩) := by
  have finds : Services.Tells t _ (fates.store.meet (Services.find signal.address) s) :=
    (Services.find_tells coherent signal.address).meet coherent fates.store
  cases phase with
  | lookUp =>
    refine settles_of_tells
      ((Services.cacheGet_tells coherent (cacheKey signal.address)).meet coherent fates.cache) ?_
    intro t' answer told
    simp only [ResolvePhase.afterLookUp]
    split
    · rename_i record kept
      unfold cachedRecord? at kept
      split at kept
      · rename_i value
        obtain ⟨_, read, key_eq, -, holds⟩ := told _ rfl value rfl
        cases read.symm.trans kept
        exact ⟨⟨(cacheKey_inj.mp key_eq).symm, holds⟩, sound⟩
      · cases kept
    · exact sound
  | find =>
    refine settles_of_tells finds ?_
    rintro t' (fault | found | record) told
    · trivial
    · exact sound
    · exact ⟨told _ rfl record rfl, sound⟩
  | create =>
    refine settles_of_tells
      ((Services.create_tells coherent signal.address signal.address .up).meet coherent fates.store) ?_
    rintro t' (fault | record) told
    · cases fault with
      | conflict => exact sound
      | _ => trivial
    · exact ⟨told _ rfl, sound⟩
  | findAgain =>
    refine settles_of_tells finds ?_
    rintro t' (fault | found | record) told
    · trivial
    · trivial
    · exact ⟨told _ rfl record rfl, sound⟩
  | done => exact sound.elim

/-- **One operation of a signal**, with whatever fails in it. -/
theorem perform_settles (coherent : s.Coherent t) (fates : Fates) {errand : Errand}
    (sound : errand.Sound t) : Settles t (errand.perform fates s) := by
  obtain ⟨signal, phase, receipts⟩ := errand
  cases phase with
  | mark mark =>
    cases mark with
    | look =>
      refine ⟨t, coherent, .refl t, ?_⟩
      simp only [perform, ProcessPhase.step]
      split <;> exact sound
    | add => exact ⟨t, coherent.aside rfl rfl rfl, .refl t, sound⟩
    | done => exact ⟨t, coherent, .refl t, sound⟩
  | resolve phase => exact resolve_settles coherent fates sound
  | stamp resolved =>
    obtain ⟨⟨named, holds⟩, unwritten⟩ := sound
    exact ⟨t, coherent.aside rfl rfl rfl, .refl t, ⟨named, holds.refresh _ _⟩, rfl, unwritten⟩
  | cache record resolution =>
    obtain ⟨known, up, unwritten⟩ := sound
    obtain rfl : receipts = {} := unwritten
    have copy : Services.Copy t (cacheKey record.address) record.encodeCached :=
      ⟨record, Record.decodeCached?_encodeCached record, rfl, up, known.2⟩
    have tells := (Services.cacheSet_tells coherent copy).meet coherent fates.cache
    simp only [perform, ProcessPhase.step, cacheRecord, Services.backendAmid, Services.backend]
    generalize fates.cache.meet (Services.cacheSet (cacheKey record.address) record.encodeCached) s =
      after at *
    obtain ⟨answer, s'⟩ := after
    obtain ⟨t', coherent', extended, -⟩ := tells
    have named : record.address = signal.address := known.1
    exact ⟨t', coherent', extended, known.extend extended, ⟨answer, by simp [named]⟩, rfl⟩
  | submit record resolution =>
    obtain ⟨known, wrote, unfiled⟩ := sound
    simp only [perform, ProcessPhase.step, Services.backendAmid, Services.backend, Services.enqueue]
    cases s.archive.enqueue? ⟨s.documentId s.documents, Document.ofSignal record signal⟩ with
    | none => exact ⟨t, coherent, .refl t, trivial⟩
    | some archive =>
      have filed : receipts.filed = [] := unfiled
      exact ⟨t, coherent.aside rfl rfl rfl, .refl t, known, wrote, by simp [filed]⟩
  | count processed => exact ⟨t, coherent.aside rfl rfl rfl, .refl t, sound⟩
  | done result => exact ⟨t, coherent, .refl t, sound⟩

end Errand
/-! ## The daemon at work -/

/-- A daemon with its cache: the signals that are worked on, and the sweep under way. -/
structure Keeper where
  services : Services
  errands : List Errand := []
  sweeping : Option SweepPhase := none

namespace Keeper

/-- A signal has its next operation done. -/
def work (k : Keeper) (fates : Fates) (i : Nat) (errand : Errand) : Keeper :=
  let (errand, services) := errand.perform fates k.services
  { k with services, errands := k.errands.set i errand }

/-- The sweep has its next operation done. -/
def sweep (k : Keeper) (fates : Fates) (phase : SweepPhase) : Keeper :=
  let (phase, sweepStatus, services, _) :=
    phase.step (Services.backendAmid fates) (k.services.sweepStatus, k.services, {})
  { k with
    services := { services with sweepStatus }
    sweeping := match phase with
      | .done _ => none
      | phase => some phase }

/-- What can happen next: a signal arrives, a signal or the sweep goes on with whatever fails in it, a sweep
begins when none is under way, or something happens that leaves the table alone and writes nothing to the
cache. Time goes on in this way, and entries of the cache expire. -/
inductive Step : Keeper → Keeper → Prop where
  | arrive {k : Keeper} (signal : Signal) : Step k { k with errands := k.errands ++ [{ signal }] }
  | work {k : Keeper} {i : Nat} {errand : Errand} (fates : Fates)
      (found : k.errands[i]? = some errand) : Step k (k.work fates i errand)
  | begin {k : Keeper} (idle : k.sweeping = none) : Step k { k with sweeping := some .announce }
  | sweep {k : Keeper} {phase : SweepPhase} (fates : Fates) (sweeping : k.sweeping = some phase) :
      Step k (k.sweep fates phase)
  | elsewhere {k : Keeper} {services : Services} (plain : ∀ n, (services.clock n).HasPlainYear)
      (table : services.database.table = k.services.database.table)
      (expired : services.cache.entries ⊆ k.services.cache.entries) : Step k { k with services }

/-- The daemon starts over rows that repeat no address and can be read, with an empty cache, a clock in
the years that a column can hold, and no signal under way. -/
structure Fresh (k : Keeper) : Prop where
  stored : ∃ t, k.services.database.table = some t ∧ t.addresses.Nodup ∧ t.Legible
  plain : ∀ n, (k.services.clock n).HasPlainYear
  empty : k.services.cache.entries = []
  uncalled : k.errands = []

/-- The invariant. -/
structure Sound (k : Keeper) (t : Table) : Prop where
  coherent : k.services.Coherent t
  errands : ∀ errand ∈ k.errands, errand.Sound t

variable {k k' start finish : Keeper} {t : Table}

theorem Fresh.sound (fresh : start.Fresh) : ∃ t, start.Sound t := by
  obtain ⟨t, held, unique, legible⟩ := fresh.stored
  refine ⟨t, ⟨held, unique, legible, fresh.plain, ?_⟩, ?_⟩
  · simp [fresh.empty]
  · simp [fresh.uncalled]

/-- A sweep asks its back-end for one thing at a time. -/
private theorem services_of_sweep {σ : Type} (b : Backend σ) (phase : SweepPhase)
    (status : SweepStatus) (s : σ) :
    (phase.step b (status, s)).2.2 = match phase with
      | .take => (b.takeWindow s).2
      | .markUp window => (b.setStatus window .inside .up s).2
      | .markDown window _ => (b.setStatus window .outside .down s).2
      | .finish .. => (b.readClock s).2
      | .announce | .conclude _ | .done _ => s := by
  cases phase with
  | markUp | markDown => simp only [SweepPhase.step]; split <;> simp_all
  | _ => rfl

/-- One operation of the sweep. -/
private theorem sweep_coherent (coherent : k.services.Coherent t) (fates : Fates)
    (phase : SweepPhase) :
    ∃ t', (k.sweep fates phase).services.Coherent t' ∧ t.Extends t' := by
  have update (window : List String) (membership : Store.Membership) (status : Status) :
      ∃ t', ((Services.backendAmid fates).setStatus window membership status
        (k.services, {})).2.1.Coherent t' ∧ t.Extends t' := by
    obtain ⟨t', coherent', extended, -⟩ :=
      (Services.setStatusFailing_tells coherent fates.statements window membership status).meet
        coherent fates.store
    exact ⟨t', coherent', extended⟩
  suffices swept : ∃ t', (phase.step (Services.backendAmid fates)
      (k.services.sweepStatus, k.services, {})).2.2.1.Coherent t' ∧ t.Extends t' by
    obtain ⟨t', coherent', extended⟩ := swept
    exact ⟨t', coherent'.aside rfl rfl rfl, extended⟩
  rw [services_of_sweep]
  cases phase with
  | markUp window => exact update window .inside .up
  | markDown window => exact update window .outside .down
  | take => exact ⟨t, coherent.aside rfl rfl rfl, .refl t⟩
  | finish => exact ⟨t, coherent.aside rfl rfl rfl, .refl t⟩
  | announce => exact ⟨t, coherent, .refl t⟩
  | conclude => exact ⟨t, coherent, .refl t⟩
  | done => exact ⟨t, coherent, .refl t⟩

/-- **One step of the daemon** keeps the invariant. -/
theorem Step.sound (step : Step k k') (sound : k.Sound t) : ∃ t', k'.Sound t' := by
  cases step with
  | arrive signal =>
    refine ⟨t, sound.coherent, fun errand member => ?_⟩
    rcases List.mem_append.mp member with old | new
    · exact sound.errands errand old
    · obtain rfl := List.mem_singleton.mp new
      exact rfl
  | @work i errand fates found =>
    obtain ⟨t', coherent, extended, performed⟩ :=
      Errand.perform_settles sound.coherent fates (sound.errands errand (List.mem_of_getElem? found))
    refine ⟨t', coherent, fun other member => ?_⟩
    rcases List.mem_or_eq_of_mem_set member with old | rfl
    · exact (sound.errands other old).extend extended
    · exact performed
  | begin => exact ⟨t, sound.coherent, sound.errands⟩
  | @sweep phase fates =>
    obtain ⟨t', coherent, extended⟩ := sweep_coherent sound.coherent fates phase
    exact ⟨t', coherent, fun errand member => (sound.errands errand member).extend extended⟩
  | elsewhere plain table expired =>
    have coherent := sound.coherent
    exact ⟨t, ⟨table.trans coherent.held, coherent.unique, coherent.legible, plain,
      fun entry member => coherent.copies entry (expired member)⟩, sound.errands⟩

theorem sound_of_run (fresh : start.Fresh) (run : Relation.ReflTransGen Step start finish) :
    ∃ t, finish.Sound t := by
  induction run with
  | refl => exact fresh.sound
  | tail _ step ih =>
    obtain ⟨t, sound⟩ := ih
    exact step.sound sound

/-- **The cache agrees with the store.** Whatever has happened, every entry of the cache is a record that is
up, under the key of its own address, and the table has a row of the same id, name, address and creation.
And whatever a signal was resolved by, once it is processed it has given to the cache and had archived the
very record that it returns, which is of the signal's address and in these columns the record that a search
for this address finds. -/
theorem cache_agrees_with_store (fresh : start.Fresh) (run : Relation.ReflTransGen Step start finish) :
    ∃ t, finish.services.database.table = some t ∧
      (∀ entry ∈ finish.services.cache.entries, ∃ record,
        Record.decodeCached? entry.2.value = some record ∧ entry.1 = cacheKey record.address ∧
          record.status = .up ∧ ∃ row ∈ t.rows, row.id = record.id ∧ row.name = record.name ∧
            row.address = record.address ∧
            Time.Instant.readStrict row.createdAt = .ok record.createdAt) ∧
      ∀ errand ∈ finish.errands, ∀ processed, errand.phase = .done (.ok processed) →
        processed.record.address = errand.signal.address ∧
        (∃ answer, errand.receipts.cached =
          [((cacheKey errand.signal.address, processed.record.encodeCached), answer)]) ∧
        errand.receipts.filed =
          [⟨processed.documentId, Document.ofSignal processed.record errand.signal⟩] ∧
        ∃ found, (finish.services.database.find errand.signal.address).1 = .ok (some found) ∧
          found.id = processed.record.id ∧ found.name = processed.record.name ∧
          found.address = processed.record.address ∧
          found.createdAt = processed.record.createdAt := by
  obtain ⟨t, coherent, errands⟩ := sound_of_run fresh run
  refine ⟨t, coherent.held, coherent.copies, ?_⟩
  intro errand member processed ended
  have sound := errands errand member
  simp only [Errand.Sound, ended] at sound
  obtain ⟨⟨named, holds⟩, cached, filed⟩ := sound
  refine ⟨named, cached, filed, ?_⟩
  have found := Table.find_of_holds coherent.unique coherent.legible holds
  simpa only [Store.Database.find, coherent.held, named] using found

/-! ## A signal that is processed -/

/-- A daemon without servers, to which a signal has come. -/
def visited : Keeper where
  services := .plain
  errands := [{ signal := ⟨"host", 0, 0⟩ }]

/-- The first signal goes on. -/
def proceed (k : Keeper) : Keeper :=
  match k.errands[0]? with
  | some errand => k.work {} 0 errand
  | none => k

theorem reaches_proceed (k : Keeper) (n : Nat) : Relation.ReflTransGen Step k (proceed^[n] k) := by
  induction n with
  | zero => exact .refl
  | succ n ih =>
    rw [Function.iterate_succ_apply']
    refine ih.trans ?_
    unfold proceed
    split
    · rename_i errand found
      exact .single (.work {} found)
    · exact .refl

/-- The server of a signal is created, cached and archived, and then found. -/
theorem visitor_is_found : Fresh { services := .plain } ∧
    Relation.ReflTransGen Step { services := .plain } (proceed^[9] visited) ∧
    (∃ errand ∈ (proceed^[9] visited).errands, ∃ processed,
      errand.phase = .done (.ok processed) ∧ processed.resolution = .created ∧
      ∃ found, ((proceed^[9] visited).services.database.find "host").1 = .ok (some found) ∧
        found.id = processed.record.id) ∧
    (proceed^[9] visited).services.cache.entries ≠ [] := by
  have plain : Time.Instant.epoch.HasPlainYear := by decide +kernel
  have fresh : Fresh { services := .plain } :=
    ⟨⟨{}, rfl, List.nodup_nil, by rintro _ ⟨⟩⟩, fun _ => plain, rfl, rfl⟩
  have run : Relation.ReflTransGen Step { services := .plain } (proceed^[9] visited) :=
    .head (.arrive ⟨"host", 0, 0⟩) (reaches_proceed visited 9)
  obtain ⟨t, -, -, errands⟩ := cache_agrees_with_store fresh run
  refine ⟨fresh, run, ⟨_, .head _, _, rfl, rfl, ?_⟩, by rintro ⟨⟩⟩
  obtain ⟨-, -, -, found, search, same, -⟩ := errands _ (.head _) _ rfl
  exact ⟨found, search, same⟩

end Keeper
end Heartbeat
