import Heartbeat.Proofs.Pipeline.Daemon
import Heartbeat.Proofs.Resolve.Step

/-! How much the store owes to the cache. A resolution that the cache answers never asks the store, so what
one signal leaves in the store is settled by the look-up: on a hit nothing, whatever the record is of; on a
miss the signal's own address and no other. Two daemons whose caches differ therefore leave the same
addresses exactly as far as what they are told about the signal's address is true. -/
namespace Heartbeat
open Store (Table)

/-- The record that the cache gives for an address, if it gives one. -/
def Services.cached? (s : Services) (address : String) : Option Record :=
  cachedRecord? (s.cacheGet (cacheKey address)).1

/-- What the cache gives for an address, if anything, is a record of it, and the store has a row of it. -/
def Services.Truthful (s : Services) (address : String) (t : Table) : Prop :=
  ∀ record, s.cached? address = some record → record.address = address ∧ address ∈ t.addresses

/-- What a signal from an address leaves in the store and is told, by what the cache gave for it. -/
inductive Settled (address : String) (t : Table) : Option Record → Table → Record → Prop where
  | hit {kept record : Record} (same : record.address = kept.address) :
      Settled address t (some kept) t record
  | miss {t' : Table} {record : Record}
      (gained : ∀ other, other ∈ t'.addresses ↔ other ∈ t.addresses ∨ other = address)
      (named : record.address = address) : Settled address t none t' record

namespace Settled

variable {address : String} {t t' : Table} {hit : Option Record} {record stamped : Record}

/-- Only the address of the record matters. -/
theorem congr (settled : Settled address t hit t' record) (same : stamped.address = record.address) :
    Settled address t hit t' stamped := by
  cases settled with
  | hit named => exact .hit (same.trans named)
  | miss gained named => exact .miss gained (same.trans named)

/-- A true answer of the cache comes to what its silence comes to, and an untrue one shows. -/
theorem truthful_iff (settled : Settled address t hit t' record) :
    (∀ kept, hit = some kept → kept.address = address ∧ address ∈ t.addresses) ↔
      record.address = address ∧ address ∈ t'.addresses := by
  cases settled with
  | @hit kept _ same =>
    constructor
    · intro truthful
      obtain ⟨named, stored⟩ := truthful kept rfl
      exact ⟨same.trans named, stored⟩
    · rintro ⟨named, stored⟩ _ ⟨⟩
      exact ⟨same.symm.trans named, stored⟩
  | miss gained named =>
    refine iff_of_true (by rintro _ ⟨⟩) ⟨named, (gained address).mpr (.inr rfl)⟩

/-- Where the answer was true, the store has what it had and the signal's address. -/
theorem mem_iff (settled : Settled address t hit t' record) (stored : address ∈ t'.addresses)
    (other : String) : other ∈ t'.addresses ↔ other ∈ t.addresses ∨ other = address := by
  cases settled with
  | hit same => exact ⟨.inl, fun held => held.elim id fun same => same ▸ stored⟩
  | miss gained named => exact gained other

end Settled

namespace ProcessPhase

variable {signal : Signal} {t held : Table} {hit : Option Record} {s : Services} {phase : ProcessPhase}

/-- Where a signal stands in a daemon whose cache gave `hit` for its address and whose table was `t` at
the start. -/
def Stands (signal : Signal) (t : Table) (hit : Option Record) (s : Services) (held : Table) :
    ProcessPhase → Prop
  | .mark _ | .resolve .lookUp => held = t ∧ s.cached? signal.address = hit
  | .resolve .find => held = t ∧ hit = none
  | .resolve .create => held = t ∧ hit = none ∧ signal.address ∉ t.addresses
  | .resolve .findAgain | .resolve (.done _) => False
  | .stamp resolved => Settled signal.address t hit held resolved.record
  | .cache record _ | .submit record _ => Settled signal.address t hit held record
  | .count processed | .done (.ok processed) => Settled signal.address t hit held processed.record
  | .done (.error _) => True

/-- Where a signal stands after an operation, in a store that still does its work. -/
def StandsAfter (signal : Signal) (t : Table) (hit : Option Record) (after : ProcessPhase × Services) :
    Prop :=
  after.2.disturbances = [] ∧
    ∃ held, after.2.database.table = some held ∧ after.1.Stands signal t hit after.2 held

/-- An operation of the resolution. -/
private theorem resolve_stands {phase : ResolvePhase} (quiet : s.disturbances = [])
    (table : s.database.table = some held) (stands : (resolve phase).Stands signal t hit s held) :
    StandsAfter signal t hit ((resolve phase).step Services.backend signal s) := by
  cases phase with
  | lookUp =>
    obtain ⟨rfl, rfl⟩ := stands
    simp only [step, ResolvePhase.step, Services.backend, ResolvePhase.afterLookUp]
    split
    · rename_i record kept
      refine ⟨quiet, held, table, ?_⟩
      simp only [afterResolve, Stands, Services.cached?, kept]
      exact .hit rfl
    · rename_i missed
      exact ⟨quiet, held, table, rfl, missed⟩
  | find =>
    obtain ⟨rfl, rfl⟩ := stands
    simp only [step, ResolvePhase.step, Services.backend, s.find_undisturbed quiet table]
    rcases held.find_cases signal.address with ⟨eq, fresh⟩ | ⟨_, -, -, -, eq⟩ |
      ⟨row, member, named, record, spelled, eq⟩
    · rw [eq]
      exact ⟨quiet, held, table, rfl, rfl, fresh⟩
    · rw [eq]
      exact ⟨quiet, held, table, trivial⟩
    · rw [eq]
      have stored : signal.address ∈ held.addresses := Table.mem_addresses.mpr ⟨row, member, named⟩
      obtain ⟨-, -, same, -⟩ := Table.columns_of_record spelled
      refine ⟨quiet, held, table, .miss (fun other => ?_) (same.trans named)⟩
      exact ⟨.inl, fun mem => mem.elim id fun same => same ▸ stored⟩
  | create =>
    obtain ⟨rfl, rfl, fresh⟩ := stands
    simp only [step, ResolvePhase.step, Services.backend, s.create_undisturbed quiet table]
    rcases held.create_cases (s.clock s.readings) signal.address signal.address .up with
      ⟨eq, -⟩ | ⟨-, taken⟩ | ⟨eq, -⟩
    · rw [eq]
      exact ⟨quiet, _, rfl, trivial⟩
    · exact absurd taken fresh
    · rw [eq]
      refine ⟨quiet, _, rfl, .miss (fun other => ?_) rfl⟩
      rw [Table.addresses_add.mem_iff, List.mem_cons, or_comm]
      rfl
  | findAgain => exact stands.elim
  | done => exact stands.elim

/-- One operation of a signal. -/
theorem step_stands (quiet : s.disturbances = []) (table : s.database.table = some held)
    (stands : phase.Stands signal t hit s held) :
    StandsAfter signal t hit (phase.step Services.backend signal s) := by
  cases phase with
  | mark mark =>
    cases mark with
    | look =>
      refine ⟨quiet, held, table, ?_⟩
      simp only [step]
      split <;> exact stands
    | add => exact ⟨quiet, held, table, stands⟩
    | done => exact ⟨quiet, held, table, stands⟩
  | resolve phase => exact resolve_stands quiet table stands
  | stamp resolved => exact ⟨quiet, held, table, Settled.congr stands rfl⟩
  | cache record resolution =>
    simp only [step, cacheRecord, Services.backend, Services.cacheSet]
    split <;> exact ⟨quiet, held, table, stands⟩
  | submit record resolution =>
    simp only [step, Services.backend, Services.enqueue]
    cases s.archive.enqueue? ⟨s.documentId s.documents, Document.ofSignal record signal⟩ with
    | none => exact ⟨quiet, held, table, trivial⟩
    | some archive => exact ⟨quiet, held, table, stands⟩
  | count processed => exact ⟨quiet, held, table, stands⟩
  | done result => exact ⟨quiet, held, table, stands⟩

/-- Any number of operations of a signal. -/
theorem advance_stands (n : Nat) (quiet : s.disturbances = []) (table : s.database.table = some held)
    (stands : phase.Stands signal t hit s held) :
    StandsAfter signal t hit (phase.advance Services.backend signal n s) := by
  induction n generalizing phase s held with
  | zero => exact ⟨quiet, held, table, stands⟩
  | succ n ih =>
    obtain ⟨quiet', held', table', stands'⟩ := step_stands quiet table stands
    exact ih quiet' table' stands'

end ProcessPhase

namespace Services

variable {s s₁ s₂ : Services} {signal : Signal} {t : Table} {processed p₁ p₂ : Processed}

/-- A signal that was processed has left in the store what the look-up settled. -/
theorem process_settled (quiet : s.disturbances = []) (held : s.database.table = some t)
    (ok : (s.process signal).1 = .ok processed) :
    ∃ t', (s.process signal).2.database.table = some t' ∧
      Settled signal.address t (s.cached? signal.address) t' processed.record := by
  have start : ProcessPhase.start.Stands signal t (s.cached? signal.address) s t := ⟨rfl, rfl⟩
  obtain ⟨-, t', held', stands⟩ := ProcessPhase.advance_stands 10 quiet held start
  refine ⟨t', held', ?_⟩
  unfold process Heartbeat.process at ok
  generalize ProcessPhase.start.advance backend signal 10 s = after at ok stands
  obtain ⟨phase, s'⟩ := after
  cases phase with
  | done result =>
    cases result with
    | ok found =>
      cases ok
      exact stands
    | error fault => cases ok
  | _ => cases ok

/-- **The cache is as authoritative as it is untruthful.** Two daemons over the same rows process the same
signal, with anything in their caches. Each leaves in the store what its own look-up settled. Both leave the
same addresses, the signal's among them, and are told a record of this address, exactly if what either cache
gives for it, if anything, is a record of the address and the store had a row of it. -/
theorem agree_iff_truthful (quiet₁ : s₁.disturbances = []) (quiet₂ : s₂.disturbances = [])
    (held₁ : s₁.database.table = some t) (held₂ : s₂.database.table = some t)
    (ok₁ : (s₁.process signal).1 = .ok p₁) (ok₂ : (s₂.process signal).1 = .ok p₂) :
    ∃ t₁ t₂, (s₁.process signal).2.database.table = some t₁ ∧
      (s₂.process signal).2.database.table = some t₂ ∧
      Settled signal.address t (s₁.cached? signal.address) t₁ p₁.record ∧
      Settled signal.address t (s₂.cached? signal.address) t₂ p₂.record ∧
      (s₁.Truthful signal.address t ∧ s₂.Truthful signal.address t ↔
        (∀ address, address ∈ t₁.addresses ↔ address ∈ t₂.addresses) ∧
          signal.address ∈ t₁.addresses ∧
          p₁.record.address = signal.address ∧ p₂.record.address = signal.address) := by
  obtain ⟨t₁, left₁, settled₁⟩ := process_settled quiet₁ held₁ ok₁
  obtain ⟨t₂, left₂, settled₂⟩ := process_settled quiet₂ held₂ ok₂
  refine ⟨t₁, t₂, left₁, left₂, settled₁, settled₂, ?_⟩
  unfold Truthful
  rw [settled₁.truthful_iff, settled₂.truthful_iff]
  constructor
  · rintro ⟨⟨named₁, stored₁⟩, named₂, stored₂⟩
    refine ⟨fun address => ?_, stored₁, named₁, named₂⟩
    rw [settled₁.mem_iff stored₁, settled₂.mem_iff stored₂]
  · rintro ⟨same, stored, named₁, named₂⟩
    exact ⟨⟨named₁, stored⟩, named₂, (same signal.address).mp stored⟩

/-! ## Caches that differ -/

/-- A daemon with the given cache over the given table. -/
def besides (entries : List (String × Cache.Entry)) (table : Table) : Services :=
  { Services.plain with database := { table := some table }, cache := ⟨1, entries⟩ }

/-- What the cache is told of a server, under the key of an address. -/
def copyFor (address : String) (record : Record) : String × Cache.Entry :=
  (cacheKey address, ⟨record.encodeCached, 0⟩)

def hostRecord : Record := ⟨1, "host", "host", .up, .epoch, .epoch⟩

def strangerRecord : Record := ⟨7, "other", "other", .up, .epoch, .epoch⟩

/-- The row that `hostRecord` is spelled by. -/
def hostTable : Table := Table.add {} (Table.newRow {} .epoch "host" "host" .up)

def hostSignal : Signal := ⟨"host", 0, 0⟩

/-- A daemon whose cache has a copy of the row agrees with one whose cache is empty. -/
theorem copy_agrees_with_row :
    (besides [copyFor "host" hostRecord] hostTable).Truthful "host" hostTable ∧
    (besides [] hostTable).Truthful "host" hostTable ∧
    ((besides [copyFor "host" hostRecord] hostTable).process hostSignal).1 =
      .ok ⟨hostRecord, .cache, ""⟩ ∧
    ((besides [] hostTable).process hostSignal).1 = .ok ⟨hostRecord, .store, ""⟩ ∧
    ∃ t₁ t₂,
      ((besides [copyFor "host" hostRecord] hostTable).process hostSignal).2.database.table = some t₁ ∧
      ((besides [] hostTable).process hostSignal).2.database.table = some t₂ ∧
      ∀ address, address ∈ t₁.addresses ↔ address ∈ t₂.addresses := by
  have ok₁ : ((besides [copyFor "host" hostRecord] hostTable).process hostSignal).1 =
      .ok ⟨hostRecord, .cache, ""⟩ := by decide +kernel
  have ok₂ : ((besides [] hostTable).process hostSignal).1 = .ok ⟨hostRecord, .store, ""⟩ := by
    decide +kernel
  have kept : (besides [copyFor "host" hostRecord] hostTable).cached? "host" = some hostRecord := by
    decide +kernel
  have missed : (besides [] hostTable).cached? "host" = none := by decide +kernel
  have truthful₁ : (besides [copyFor "host" hostRecord] hostTable).Truthful "host" hostTable := by
    intro record given
    cases kept.symm.trans given
    exact ⟨rfl, by decide +kernel⟩
  have truthful₂ : (besides [] hostTable).Truthful "host" hostTable := by
    intro record given
    cases missed.symm.trans given
  obtain ⟨t₁, t₂, left₁, left₂, -, -, agree⟩ :=
    @agree_iff_truthful _ _ hostSignal hostTable _ _ rfl rfl rfl rfl ok₁ ok₂
  exact ⟨truthful₁, truthful₂, ok₁, ok₂, t₁, t₂, left₁, left₂, (agree.mp ⟨truthful₁, truthful₂⟩).1⟩

/-- A copy that has outlived its row keeps the row from being made anew, and under the key of one server
the record of another is handed out. -/
theorem stale_copy_hides_missing_row :
    (besides [copyFor "host" hostRecord] {}).disturbances = [] ∧ (besides [] {}).disturbances = [] ∧
    ((besides [copyFor "host" hostRecord] {}).process hostSignal).1 = .ok ⟨hostRecord, .cache, ""⟩ ∧
    ((besides [] {}).process hostSignal).1 = .ok ⟨hostRecord, .created, ""⟩ ∧
    ((besides [copyFor "host" hostRecord] {}).process hostSignal).2.database.table = some {} ∧
    ((besides [] {}).process hostSignal).2.database.table = some hostTable ∧
    "host" ∈ hostTable.addresses ∧ "host" ∉ Table.addresses {} ∧
    ((besides [copyFor "host" strangerRecord] hostTable).process hostSignal).1 =
      .ok ⟨strangerRecord, .cache, ""⟩ ∧ strangerRecord.address ≠ "host" := by
  refine ⟨rfl, rfl, ?_, ?_, ?_, ?_, ?_, ?_, ?_, ?_⟩
  all_goals decide +kernel

end Services
end Heartbeat
