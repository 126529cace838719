import Heartbeat.Proofs.Store.Table
import Heartbeat.Services

/-! What one operation of a resolution can come to in a daemon whose store does its work. `Move` lists
the cases with what they say about the table; `step_served` says that there are no others, and that an
operation leaves everything alone but the table and the count of clock readings. -/
namespace Heartbeat
open Store (Table)
open Time (Instant)

variable {s : Services} {t : Table} {address : String} {phase : ResolvePhase}

namespace Services

/-- A search that nothing disturbs asks the table and changes nothing. -/
theorem find_undisturbed (quiet : s.disturbances = []) (held : s.database.table = some t) :
    s.find address = (t.find address, s) := by
  cases s
  simp only at quiet held
  subst quiet
  simp [find, disturb, takeFirst, Store.Database.find, held]

/-- The services after the clock was read and the table was replaced. -/
def withTable (s : Services) (t : Table) (readings : Nat) : Services :=
  { s with database := { s.database with table := some t }, readings }

/-- A creation that nothing disturbs reads the clock and asks the table. -/
theorem create_undisturbed (quiet : s.disturbances = []) (held : s.database.table = some t)
    (name address : String) (status : Status) :
    s.create name address status =
      match t.create (s.clock s.readings) name address status with
      | .ok (record, t') => (.ok record, s.withTable t' (s.readings + 1))
      | .error fault => (.error fault, s.withTable t (s.readings + 1)) := by
  cases s with | mk tracker database => ?_
  cases database
  simp only at quiet held
  subst quiet held
  simp only [create, disturb, takeFirst, readClock, Store.Database.create, withTable]
  split <;> simp_all

end Services

namespace ResolvePhase

/-- The store does the next operation of a resolution, unless it is to create a record for an address
that is taken. -/
def Served (s : Services) (address : String) : ResolvePhase → Prop
  | .find | .findAgain => ∀ fault, (s.find address).1 ≠ .error fault
  | .create => ∀ fault, (s.create address address .up).1 = .error fault →
      fault = .conflict address ∧ ∃ t, s.database.table = some t ∧ t.taken address = true
  | _ => True

private theorem isOk_iff {ε α : Type} (result : Except ε α) :
    result.isOk = true ↔ ∀ fault, result ≠ .error fault := by
  cases result with
  | ok => exact ⟨fun _ _ => by rintro ⟨⟩, fun _ => rfl⟩
  | error fault => exact ⟨by rintro ⟨⟩, fun never => absurd rfl (never fault)⟩

instance (s : Services) (address : String) : (phase : ResolvePhase) → Decidable (phase.Served s address)
  | .find | .findAgain => decidable_of_iff _ (isOk_iff (s.find address).1)
  | .create =>
    match answer : (s.create address address .up).1 with
    | .ok _ => isTrue fun _ refused => nomatch answer.symm.trans refused
    | .error fault =>
      decidable_of_iff (fault = .conflict address ∧ s.database.table.any (·.taken address) = true) <| by
        simp only [Served, answer, Except.error.injEq, forall_eq', Option.any_eq_true]
  | .lookUp | .done _ => inferInstanceAs (Decidable True)

/-- What the next operation of a resolution can come to, in a daemon over a table. -/
inductive Move (s : Services) (address : String) (t : Table) :
    ResolvePhase → ResolvePhase → Table → Prop where
  | hit {record : Record} (kept : cachedRecord? (s.cacheGet (cacheKey address)).1 = some record) :
      Move s address t .lookUp (.done (.ok ⟨record, .cache⟩)) t
  | miss (kept : cachedRecord? (s.cacheGet (cacheKey address)).1 = none) :
      Move s address t .lookUp .find t
  | found {row : Store.Row} {record : Record} (member : row ∈ t.rows)
      (named : row.address = address) (spelled : row.record? = some record) :
      Move s address t .find (.done (.ok ⟨record, .store⟩)) t
  | absent (fresh : address ∉ t.addresses) : Move s address t .find .create t
  | created {now : Instant} (read : now = s.clock s.readings) (fresh : address ∉ t.addresses) :
      Move s address t .create
        (.done (.ok ⟨⟨t.lastId + 1, address, address, .up, now, now⟩, .created⟩))
        (t.add (t.newRow now address address .up))
  | conflict (taken : address ∈ t.addresses) : Move s address t .create .findAgain t
  | foundAgain {row : Store.Row} {record : Record} (member : row ∈ t.rows)
      (named : row.address = address) (spelled : row.record? = some record) :
      Move s address t .findAgain (.done (.ok ⟨record, .createdElsewhere⟩)) t
  | vanished (fresh : address ∉ t.addresses) :
      Move s address t .findAgain (.done (.error (.vanished address))) t
  | rest (result : Except ResolveFault Resolved) :
      Move s address t (.done result) (.done result) t

/-- A search that the store does finds the row of the address, unless there is none. -/
private theorem find_served (quiet : s.disturbances = []) (held : s.database.table = some t)
    (served : ∀ fault, (s.find address).1 ≠ .error fault) :
    (s.find address = (.ok none, s) ∧ address ∉ t.addresses) ∨
      ∃ row ∈ t.rows, row.address = address ∧ ∃ record, row.record? = some record ∧
        s.find address = (.ok (some record), s) := by
  rw [s.find_undisturbed quiet held] at served ⊢
  rcases t.find_cases address with ⟨none, fresh⟩ | ⟨row, member, named, spelled, fault⟩ |
    ⟨row, member, named, record, spelled, some⟩
  · exact .inl ⟨by rw [none], fresh⟩
  · exact absurd fault (served _)
  · exact .inr ⟨row, member, named, record, spelled, by rw [some]⟩

/-- **One operation of a resolution**: what it can come to, and what it leaves alone. -/
theorem step_served (quiet : s.disturbances = []) (held : s.database.table = some t)
    (served : phase.Served s address) :
    ∃ t' readings,
      Move s address t phase (phase.step Services.backend address s).1 t' ∧
      (phase.step Services.backend address s).2 = s.withTable t' readings := by
  have same : s = s.withTable t s.readings := by
    cases s with | mk tracker database => cases database; simp_all [Services.withTable]
  cases phase with
  | lookUp =>
    refine ⟨t, s.readings, ?_, same⟩
    simp only [step, Services.backend, afterLookUp]
    split
    · rename_i record kept; exact .hit kept
    · rename_i kept; exact .miss kept
  | find =>
    refine ⟨t, s.readings, ?_⟩
    simp only [step, Services.backend]
    rcases find_served quiet held served with ⟨eq, fresh⟩ | ⟨row, member, named, record, spelled, eq⟩
    · rw [eq]; exact ⟨.absent fresh, same⟩
    · rw [eq]; exact ⟨.found member named spelled, same⟩
  | create =>
    simp only [step, Services.backend]
    simp only [Served, s.create_undisturbed quiet held] at served ⊢
    rcases t.create_cases (s.clock s.readings) address address .up with
      ⟨eq, -⟩ | ⟨eq, taken⟩ | ⟨eq, fresh⟩
    · rw [eq] at served
      cases (served _ rfl).1
    · rw [eq]; exact ⟨_, _, .conflict taken, rfl⟩
    · rw [eq]; exact ⟨_, _, .created rfl fresh, rfl⟩
  | findAgain =>
    refine ⟨t, s.readings, ?_⟩
    simp only [step, Services.backend]
    rcases find_served quiet held served with ⟨eq, fresh⟩ | ⟨row, member, named, record, spelled, eq⟩
    · rw [eq]; exact ⟨.vanished fresh, same⟩
    · rw [eq]; exact ⟨.foundAgain member named spelled, same⟩
  | done result => exact ⟨t, s.readings, .rest result, same⟩

end ResolvePhase
end Heartbeat
