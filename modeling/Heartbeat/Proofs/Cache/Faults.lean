import Heartbeat.Proofs.Record.Envelope
import Heartbeat.Proofs.Store.Identity
import Heartbeat.Proofs.Sweep.Works

/-! Calls to the cache and the store that can fail, also after they have done their work, and what each of
them leaves of a daemon whose cache says what its store says. A call that answers tells the truth about the
table, and a call that does not can only have extended it. -/
namespace Heartbeat
open Store (Table)

/-! ## What becomes of a call -/

/-- What becomes of a call. -/
inductive Fate (ε : Type) where
  | served
  | refused (fault : ε)
  /-- The call does its work and fails before it can answer. -/
  | lost (fault : ε)

def Fate.meet {ε α σ : Type} (fate : Fate ε) (call : σ → Except ε α × σ) (s : σ) : Except ε α × σ :=
  match fate with
  | .served => call s
  | .refused fault => (.error fault, s)
  | .lost fault => (.error fault, (call s).2)

/-- What becomes of the calls of one operation, and which statements of a status update fail. -/
structure Fates where
  cache : Fate Cache.Fault := .served
  store : Fate Store.Fault := .served
  statements : Nat → Bool := fun _ => false

/-- What a signal has had written: each value it gave to the cache under a key, with the cache's answer,
and each document that the archive took from it. -/
structure Receipts where
  cached : List ((String × String) × Except Cache.Fault Unit) := []
  filed : List Archive.Item := []

namespace Services

/-- A call that leaves the receipts of its caller alone. -/
def beside {α : Type} (call : Services → α × Services) :
    Services × Receipts → α × Services × Receipts
  | (s, receipts) => let (answer, s) := call s; (answer, s, receipts)

/-- The services as a back-end of one caller, whose calls meet the given fates. -/
def backendAmid (fates : Fates) : Backend (Services × Receipts) :=
  { isSeen := fun address p => backend.isSeen address p.1
    addSeen := fun address p => (backend.addSeen address p.1, p.2)
    takeWindow := beside backend.takeWindow
    cacheGet := fun key => beside (fates.cache.meet (backend.cacheGet key))
    cacheSet := fun key value p =>
      let (answer, s) := fates.cache.meet (backend.cacheSet key value) p.1
      (answer, s, { p.2 with cached := p.2.cached ++ [((key, value), answer)] })
    find := fun address => beside (fates.store.meet (backend.find address))
    create := fun name address status =>
      beside (fates.store.meet (backend.create name address status))
    setStatus := fun addresses membership status =>
      beside (fates.store.meet ((backendFailing fates.statements).setStatus addresses membership status))
    readClock := beside backend.readClock
    enqueue := fun document p =>
      match backend.enqueue document p.1 with
      | (some id, s) => (some id, s, { p.2 with filed := p.2.filed ++ [⟨id, document⟩] })
      | (none, s) => (none, s, p.2)
    countDocument := fun p => (backend.countDocument p.1, p.2) }

/-! ## What the daemon keeps of its servers -/

/-- A value in the cache is a record that is up, under the key of its address, of a server in the table. -/
def Copy (t : Table) (key value : String) : Prop :=
  ∃ record, Record.decodeCached? value = some record ∧ key = cacheKey record.address ∧
    record.status = .up ∧ t.Holds record

/-- The cache says what the table says. -/
structure Coherent (s : Services) (t : Table) : Prop where
  held : s.database.table = some t
  unique : t.addresses.Nodup
  legible : t.Legible
  plain : ∀ n, (s.clock n).HasPlainYear
  copies : ∀ entry ∈ s.cache.entries, Copy t entry.1 entry.2.value

/-- After a call the daemon is coherent over a table that extends the one before, and what the answer
tells is true of it. -/
def Tells {ε α : Type} (t : Table) (told : α → Table → Prop) (after : Except ε α × Services) : Prop :=
  ∃ t', after.2.Coherent t' ∧ t.Extends t' ∧ ∀ answer, after.1 = .ok answer → told answer t'

variable {s s' : Services} {t t' : Table}

theorem Copy.extend {key value : String} (copy : Copy t key value) (extended : t.Extends t') :
    Copy t' key value := by
  obtain ⟨record, read, key_eq, up, holds⟩ := copy
  exact ⟨record, read, key_eq, up, holds.extend extended⟩

/-- A daemon stays coherent when its table is extended and its cache at most loses entries. -/
theorem Coherent.become (coherent : s.Coherent t) (held : s'.database.table = some t')
    (extended : t.Extends t') (clock : s'.clock = s.clock)
    (cache : s'.cache.entries ⊆ s.cache.entries) : s'.Coherent t' where
  held := held
  unique := extended.unique coherent.unique
  legible := extended.legible coherent.legible
  plain := clock ▸ coherent.plain
  copies entry member := (coherent.copies entry (cache member)).extend extended

/-- What does not touch the table, the clock and the cache leaves the daemon coherent. -/
theorem Coherent.aside (coherent : s.Coherent t) (database : s'.database = s.database)
    (clock : s'.clock = s.clock) (cache : s'.cache = s.cache) : s'.Coherent t :=
  coherent.become (database ▸ coherent.held) (.refl t) clock (cache ▸ fun _ => id)

/-- Any call may fail, before its work or after it. -/
theorem Tells.meet {ε α : Type} {told : α → Table → Prop} {call : Services → Except ε α × Services}
    (coherent : s.Coherent t) (tells : Tells t told (call s)) (fate : Fate ε) :
    Tells t told (fate.meet call s) := by
  cases fate with
  | served => exact tells
  | refused => exact ⟨t, coherent, .refl t, by rintro _ ⟨⟩⟩
  | lost =>
    obtain ⟨t', coherent', extended, -⟩ := tells
    exact ⟨t', coherent', extended, by rintro _ ⟨⟩⟩

/-- The table makes a row for a new server, and gives the creator its record. -/
private theorem database_create_tells (coherent : s.Coherent t) (reading : Nat)
    (name address : String) (status : Status) :
    Tells t (fun record t' => record.address = address ∧ t'.Holds record)
      ((s.database.create (s.clock reading) name address status).1,
        { s with
          readings := s.readings + 1
          database := (s.database.create (s.clock reading) name address status).2 }) := by
  simp only [Store.Database.create, coherent.held]
  have plain := coherent.plain reading
  rcases t.create_cases (s.clock reading) name address status with ⟨eq, -⟩ | ⟨eq, -⟩ | ⟨eq, fresh⟩
  · rw [eq]
    exact ⟨t, coherent.aside rfl rfl rfl, .refl t, by rintro _ ⟨⟩⟩
  · rw [eq]
    exact ⟨t, coherent.aside rfl rfl rfl, .refl t, by rintro _ ⟨⟩⟩
  · rw [eq]
    have extended := Table.extends_add plain fresh name status
    refine ⟨_, coherent.become rfl extended rfl fun _ => id, extended, ?_⟩
    rintro _ ⟨⟩
    exact ⟨rfl, Table.holds_newRow plain name address status⟩

/-- Others may have come first, with a row of their own. -/
private theorem disturb_coherent (coherent : s.Coherent t) (call : StoreCall) (address : String) :
    ∃ t', (s.disturb call address).2.Coherent t' ∧ t.Extends t' := by
  unfold disturb
  generalize takeFirst call s.disturbances = first
  obtain ⟨disturbance, rest⟩ := first
  have quieter : Coherent { s with disturbances := rest } t := coherent.aside rfl rfl rfl
  cases disturbance with
  | none => exact ⟨t, quieter, .refl t⟩
  | unavailable => exact ⟨t, quieter, .refl t⟩
  | conflict => exact ⟨t, quieter, .refl t⟩
  | mark => exact ⟨t, quieter.aside rfl rfl rfl, .refl t⟩
  | rival =>
    obtain ⟨t', coherent', extended, -⟩ :=
      database_create_tells quieter s.readings "rival" address .down
    exact ⟨t', coherent', extended⟩

/-- A call to the store tells what it tells once others have had their turn. -/
private theorem Tells.disturbed {α : Type} {told : α → Table → Prop}
    {rest : Services → Except Store.Fault α × Services} (coherent : s.Coherent t) (call : StoreCall)
    (address : String) (tells : ∀ s' t', s'.Coherent t' → Tells t' told (rest s')) :
    Tells t told (match s.disturb call address with
      | (some fault, s') => (.error fault, s')
      | (none, s') => rest s') := by
  obtain ⟨t', coherent', extended⟩ := disturb_coherent coherent call address
  split
  · rename_i eq
    rw [eq] at coherent'
    exact ⟨t', coherent', extended, by rintro _ ⟨⟩⟩
  · rename_i s' eq
    rw [eq] at coherent'
    obtain ⟨t'', coherent'', further, answered⟩ := tells s' t' coherent'
    exact ⟨t'', coherent'', extended.trans further, answered⟩

theorem find_tells (coherent : s.Coherent t) (address : String) :
    Tells t (fun found t' => ∀ record, found = some record →
      record.address = address ∧ t'.Holds record) (s.find address) := by
  refine Tells.disturbed coherent .find address fun s' t' coherent' => ?_
  have held : s'.database.table = some t' := coherent'.held
  simp only [Store.Database.find, held]
  refine ⟨t', coherent'.aside rfl rfl rfl, .refl t', ?_⟩
  rcases t'.find_cases address with ⟨eq, -⟩ | ⟨_, -, -, -, eq⟩ |
    ⟨row, member, named, record, spelled, eq⟩
  · rw [eq]
    rintro _ ⟨⟩ _ ⟨⟩
  · rw [eq]
    rintro _ ⟨⟩
  · rw [eq]
    rintro _ ⟨⟩ _ ⟨⟩
    obtain ⟨-, -, same, -⟩ := Table.columns_of_record spelled
    exact ⟨same.trans named, Table.holds_of_record member spelled⟩

theorem create_tells (coherent : s.Coherent t) (name address : String) (status : Status) :
    Tells t (fun record t' => record.address = address ∧ t'.Holds record)
      (s.create name address status) := by
  refine Tells.disturbed coherent .create address fun s' t' coherent' => ?_
  exact database_create_tells coherent' s'.readings name address status

theorem setStatusFailing_tells (coherent : s.Coherent t) (fails : Nat → Bool) (window : List String)
    (membership : Store.Membership) (status : Status) :
    Tells t (fun _ _ => True) (s.setStatusFailing fails window membership status) := by
  refine Tells.disturbed coherent .setStatus "" fun s' t' coherent' => ?_
  have held : s'.database.table = some t' := coherent'.held
  simp only [readClock]
  rcases Store.Database.setStatusFailing_cases held fails (s'.clock s'.readings) window membership
    status with ⟨activity, eq⟩ | eq
  · rw [eq]
    exact ⟨t', coherent'.become held (.refl t') rfl fun _ => id, .refl t', fun _ _ => trivial⟩
  · rw [eq]
    have extended : t'.Extends (t'.update (s'.clock s'.readings) window membership status).2 :=
      Table.extends_update (coherent'.plain _)
    exact ⟨_, coherent'.become rfl extended rfl fun _ => id, extended, fun _ _ => trivial⟩

theorem cacheGet_tells (coherent : s.Coherent t) (key : String) :
    Tells t (fun found t' => ∀ value, found = some value → Copy t' key value) (s.cacheGet key) := by
  refine ⟨t, coherent, .refl t, ?_⟩
  intro found answer value given
  subst given
  simp only [cacheGet, Cache.Memory.get?] at answer
  split at answer
  · cases answer
  · cases entry_eq : s.cache.entries.lookup key with
    | none => simp [entry_eq] at answer
    | some entry =>
      obtain ⟨before, rest, eq, -⟩ := List.lookup_eq_some_iff.mp entry_eq
      have member : (key, entry) ∈ s.cache.entries := eq ▸ List.mem_append_right _ (.head _)
      simp only [entry_eq] at answer
      split at answer
      · cases answer
        exact coherent.copies _ member
      · cases answer

theorem cacheSet_tells (coherent : s.Coherent t) {key value : String} (copy : Copy t key value) :
    Tells t (fun _ _ => True) (s.cacheSet key value) := by
  unfold cacheSet
  split
  · exact ⟨t, coherent, .refl t, fun _ _ => trivial⟩
  · refine ⟨t, ⟨coherent.held, coherent.unique, coherent.legible, coherent.plain, ?_⟩, .refl t,
      fun _ _ => trivial⟩
    intro entry member
    rcases List.mem_cons.mp member with rfl | old
    · exact copy
    · exact coherent.copies entry (List.mem_of_mem_filter old)

end Services

end Heartbeat
