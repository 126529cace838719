import Heartbeat.Proofs.Pipeline.Frame
import Heartbeat.Proofs.Sweep.Works

/-! What calls to the store for one address can make of a daemon, whatever disturbs them. Rows are only added,
and only for this address; since no two rows share an address, all the calls together add at most one. It is
the row of a new server, unless somebody else was faster. -/
namespace Heartbeat
open Store (Table)
open Time (Instant)

/-! ## The table -/

/-- What becomes of a table, or of none, while a record of an address is looked for or made. Only if there
are rivals can the row be another one than that of a new server. -/
inductive Store.Table.Gained (address : String) (rivals : Prop) : Option Table → Option Table → Prop where
  | same (table : Option Table) : Gained address rivals table table
  | own {t : Table} (now : Instant) (fresh : address ∉ t.addresses) :
      Gained address rivals (some t) (some (t.add (t.newRow now address address .up)))
  | rival {t : Table} (pending : rivals) (now : Instant) (fresh : address ∉ t.addresses) :
      Gained address rivals (some t) (some (t.add (t.newRow now "rival" address .down)))

namespace Store.Table.Gained

variable {address : String} {rivals fewer : Prop} {table table' table'' : Option Table} {t : Table}

theorem mono (gained : Gained address fewer table table') (imp : fewer → rivals) :
    Gained address rivals table table' := by
  cases gained with
  | same => exact .same table
  | own now fresh => exact .own now fresh
  | rival pending now fresh => exact .rival (imp pending) now fresh

/-- An address that has got its row gets no other. -/
theorem eq_of_mem (gained : Gained address rivals (some t) table') (held : address ∈ t.addresses) :
    table' = some t := by
  cases gained with
  | same => rfl
  | own now fresh => exact absurd held fresh
  | rival pending now fresh => exact absurd held fresh

private theorem mem_add_newRow (now : Instant) (name : String) (status : Status) :
    address ∈ (t.add (t.newRow now name address status)).addresses :=
  addresses_add.mem_iff.mpr (.head _)

theorem trans (first : Gained address rivals table table') (second : Gained address rivals table' table'') :
    Gained address rivals table table'' := by
  cases first with
  | same => exact second
  | own now fresh =>
    rw [second.eq_of_mem (mem_add_newRow now _ _)]
    exact .own now fresh
  | rival pending now fresh =>
    rw [second.eq_of_mem (mem_add_newRow now _ _)]
    exact .rival pending now fresh

/-- Every row stays as it is and where it is. -/
theorem rows_sublist (gained : Gained address rivals (some t) table') :
    ∃ t', table' = some t' ∧ t.rows.Sublist t'.rows := by
  cases gained with
  | same => exact ⟨t, rfl, .refl _⟩
  | own now fresh => exact ⟨_, rfl, rows_sublist_add t _⟩
  | rival pending now fresh => exact ⟨_, rfl, rows_sublist_add t _⟩

/-- Without rivals a row that is new is that of a new server. -/
theorem own_of_uncontested (gained : Gained address rivals (some t) table') (alone : ¬ rivals) :
    table' = some t ∨ ∃ now, address ∉ t.addresses ∧
      table' = some (t.add (t.newRow now address address .up)) := by
  cases gained with
  | same => exact .inl rfl
  | own now fresh => exact .inr ⟨now, fresh, rfl⟩
  | rival pending => exact absurd pending alone

/-- What a database creates for an address. -/
theorem of_create {db : Store.Database} (now : Instant) (name : String) (status : Status)
    (allowed : name = address ∧ status = .up ∨ rivals ∧ name = "rival" ∧ status = .down) :
    Gained address rivals db.table (db.create now name address status).2.table := by
  unfold Store.Database.create
  split
  · rename_i missing
    simp only [Store.Database.touched, missing]
    exact .same none
  · rename_i t held
    rw [held]
    rcases t.create_cases now name address status with ⟨eq, -⟩ | ⟨eq, -⟩ | ⟨eq, fresh⟩
    · rw [eq]
      exact held ▸ .same _
    · rw [eq]
      exact held ▸ .same _
    · rw [eq]
      rcases allowed with ⟨rfl, rfl⟩ | ⟨pending, rfl, rfl⟩
      · exact .own now fresh
      · exact .rival pending now fresh

end Store.Table.Gained

/-! ## The daemon -/

namespace Services

variable {s s' s'' : Services} {address : String}

/-- Somebody else is about to write a row into the store. -/
def Contested (s : Services) : Prop := ∃ call, (call, Disturbance.rival) ∈ s.disturbances

/-- A signal from another task is about to arrive. -/
def Awaits (s : Services) (address : String) : Prop :=
  ∃ call, (call, Disturbance.mark address) ∈ s.disturbances

theorem Alone.not_contested (alone : s.Alone) : ¬ s.Contested := by
  rintro ⟨call, member⟩
  exact alone _ member rfl

/-- The services after calls to the store for one address. -/
structure Called (address : String) (s s' : Services) : Prop where
  only : s.StoreOnly s'
  pending : s'.disturbances ⊆ s.disturbances
  rows : Table.Gained address s.Contested s.database.table s'.database.table
  kept : s.tracker.seen ⊆ s'.tracker.seen
  arrived : ∀ other ∈ s'.tracker.seen, other ∈ s.tracker.seen ∨ s.Awaits other

theorem Called.refl (address : String) (s : Services) : s.Called address s where
  only := .refl s
  pending := fun _ => id
  rows := .same _
  kept := fun _ => id
  arrived _ := .inl

theorem Called.trans (first : s.Called address s') (second : s'.Called address s'') :
    s.Called address s'' where
  only := first.only.trans second.only
  pending := List.Subset.trans second.pending first.pending
  rows := first.rows.trans <| second.rows.mono fun ⟨call, member⟩ => ⟨call, first.pending member⟩
  kept := List.Subset.trans first.kept second.kept
  arrived other member := by
    rcases second.arrived other member with before | ⟨call, later⟩
    · exact first.arrived other before
    · exact .inr ⟨call, first.pending later⟩

/-- The database has done something, and may have been read the clock. -/
theorem Called.database {database : Store.Database} (before : s.Called address s') (readings : Nat)
    (rows : Table.Gained address s.Contested s'.database.table database.table) :
    s.Called address { s' with database, readings } where
  only := before.only.trans (.mk s'.tracker database s'.disturbances readings)
  pending := before.pending
  rows := before.rows.trans rows
  kept := before.kept
  arrived := before.arrived

theorem disturb_called (call : StoreCall) (address : String) (s : Services) :
    s.Called address (s.disturb call address).2 := by
  have only := s.disturb_storeOnly call address
  obtain ⟨subset, taken⟩ := takeFirst_subset call s.disturbances
  unfold disturb at only ⊢
  generalize takeFirst call s.disturbances = first at *
  obtain ⟨disturbance, rest⟩ := first
  cases disturbance with
  | none => exact ⟨only, subset, .same _, fun _ => id, fun _ => .inl⟩
  | unavailable => exact ⟨only, subset, .same _, fun _ => id, fun _ => .inl⟩
  | conflict => exact ⟨only, subset, .same _, fun _ => id, fun _ => .inl⟩
  | rival =>
    have contested : s.Contested := ⟨call, taken.resolve_left nofun⟩
    exact ⟨only, subset, .of_create _ _ _ (.inr ⟨contested, rfl, rfl⟩), fun _ => id, fun _ => .inl⟩
  | mark marked =>
    refine ⟨only, subset, .same _, fun other seen => Tracker.mem_mark.mpr (.inr seen),
      fun other member => ?_⟩
    rcases Tracker.mem_mark.mp member with rfl | before
    · exact .inr ⟨call, taken.resolve_left nofun⟩
    · exact .inl before

theorem find_called (address : String) (s : Services) : s.Called address (s.find address).2 := by
  have before := s.disturb_called .find address
  unfold find
  split <;> (rename_i eq; rw [eq] at before)
  · exact before
  · rename_i s'
    refine before.database s'.readings ?_
    unfold Store.Database.find
    split
    · rename_i missing
      exact missing ▸ .same _
    · exact .same _

theorem create_called (address : String) (s : Services) :
    s.Called address (s.create address address .up).2 := by
  have before := s.disturb_called .create address
  unfold create
  split <;> (rename_i eq; rw [eq] at before)
  · exact before
  · rename_i s'
    exact before.database (s'.readings + 1) (.of_create _ _ _ (.inl ⟨rfl, rfl⟩))

end Services

/-- One operation of a resolution calls the store for its address, if it calls it at all. -/
theorem ResolvePhase.step_called (phase : ResolvePhase) (address : String) (s : Services) :
    s.Called address (phase.step Services.backend address s).2 := by
  cases phase with
  | lookUp => exact .refl address s
  | find => exact s.find_called address
  | create => exact s.create_called address
  | findAgain => exact s.find_called address
  | done => exact .refl address s

/-- Any number of operations of a resolution. -/
theorem ResolvePhase.advance_called (n : Nat) (phase : ResolvePhase) (address : String) (s : Services) :
    s.Called address (phase.advance Services.backend address n s).2 := by
  induction n generalizing phase s with
  | zero => exact .refl address s
  | succ n ih => exact (phase.step_called address s).trans (ih _ _)

theorem Services.resolve_called (s : Services) (address : String) :
    s.Called address (s.resolve address).2 :=
  ResolvePhase.advance_called 4 .lookUp address s

end Heartbeat
