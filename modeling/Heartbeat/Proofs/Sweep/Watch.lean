import Heartbeat.Proofs.Sweep.Works

/-! A daemon as its sweeps see it, and what one step does to it. Signals arrive and are worked on, and one
sweep after another takes a window and writes it, all in any order of their operations. -/
namespace Heartbeat
open Store (Table)

/-- A daemon as its sweeps see it: the signals being worked on, and the sweep under way. -/
structure Watch where
  services : Services
  calls : List (Signal × ProcessPhase) := []
  sweeping : Option SweepPhase := none

namespace Watch

/-- A call has its next operation done. -/
def work (w : Watch) (i : Nat) (signal : Signal) (phase : ProcessPhase) : Watch :=
  let (phase, services) := phase.step Services.backend signal w.services
  { w with services, calls := w.calls.set i (signal, phase) }

/-- The sweep has its next operation done; an update fails if one of the given statements does. -/
def sweep (w : Watch) (fails : Nat → Bool) (phase : SweepPhase) : Watch :=
  let (phase, sweepStatus, services) :=
    phase.step (Services.backendFailing fails) (w.services.sweepStatus, w.services)
  { w with
    services := { services with sweepStatus }
    sweeping := match phase with
      | .done _ => none
      | phase => some phase }

/-- What can happen next: a signal arrives, a call or the sweep goes on, a sweep begins when none is
under way, or something happens that touches neither the tracker nor the store. -/
inductive Step : Watch → Watch → Prop where
  | arrive {w : Watch} (signal : Signal) : Step w { w with calls := w.calls ++ [(signal, .start)] }
  | work {w : Watch} {i : Nat} {signal : Signal} {phase : ProcessPhase}
      (found : w.calls[i]? = some (signal, phase)) : Step w (w.work i signal phase)
  | begin {w : Watch} (idle : w.sweeping = none) : Step w { w with sweeping := some .announce }
  | sweep {w : Watch} {phase : SweepPhase} (fails : Nat → Bool)
      (sweeping : w.sweeping = some phase) : Step w (w.sweep fails phase)
  | elsewhere {w : Watch} {services : Services} (alone : services.Alone)
      (tracker : services.tracker = w.services.tracker)
      (database : services.database = w.services.database) : Step w { w with services }

variable {w w' : Watch} {t t' : Table} {address : String} {window : List String} {up : Nat}

/-- What a step does to the rows and the marks, by where it leaves the sweep. -/
inductive Effect (w w' : Watch) (t : Table) : Table → Prop where
  | work {t' : Table} (gains : t.Gains t') (sweeping : w'.sweeping = w.sweeping)
      (seen : w.services.tracker.seen ⊆ w'.services.tracker.seen) : Effect w w' t t'
  | take (sweeping : w.sweeping = some .take)
      (next : w'.sweeping = some (.markUp w.services.tracker.seen)) : Effect w w' t t
  | markUp {window : List String} {now : Time.Instant} {count : Nat}
      (sweeping : w.sweeping = some (.markUp window))
      (next : w'.sweeping = some (.markDown window count))
      (seen : w.services.tracker.seen ⊆ w'.services.tracker.seen) :
      Effect w w' t (t.update now window .inside .up).2
  | markDown {window : List String} {now : Time.Instant} {count up : Nat}
      (sweeping : w.sweeping = some (.markDown window up))
      (next : w'.sweeping = some (.finish window.length up count))
      (seen : w.services.tracker.seen ⊆ w'.services.tracker.seen) :
      Effect w w' t (t.update now window .outside .down).2
  | aside (sweeping : w.sweeping ≠ some .take)
      (next : ∀ phase, w'.sweeping = some phase →
        phase = .announce ∨ phase = .take ∨ ∃ result, phase = .conclude result)
      (seen : w.services.tracker.seen ⊆ w'.services.tracker.seen) : Effect w w' t t

/-- One operation of the sweep. -/
private theorem sweep_effect (alone : w.services.Alone) (held : w.services.database.table = some t)
    {phase : SweepPhase} (sweeping : w.sweeping = some phase) (fails : Nat → Bool) :
    (w.sweep fails phase).services.Alone ∧
      ∃ t', (w.sweep fails phase).services.database.table = some t' ∧
        Effect w (w.sweep fails phase) t t' := by
  have kept : w.services.tracker.seen ⊆ w.services.tracker.seen := fun _ => id
  cases phase with
  | announce => exact ⟨alone, t, held, .aside (by simp [sweeping]) (by rintro _ ⟨⟩; simp) kept⟩
  | take => exact ⟨alone, t, held, .take sweeping rfl⟩
  | markUp window =>
    obtain ⟨waits, effect⟩ := Services.setStatusFailing_ends alone fails window .inside .up
    simp only [Watch.sweep, SweepPhase.step, Services.backendFailing]
    generalize w.services.setStatusFailing fails window .inside .up = after at *
    obtain ⟨result, services⟩ := after
    rcases effect with ⟨fault, rfl, same⟩ | ⟨_, now, held', rfl, written⟩
    · exact ⟨waits.alone, t, same.trans held,
        .aside (by simp [sweeping]) (by rintro _ ⟨⟩; simp) waits.kept⟩
    · cases held.symm.trans held'
      exact ⟨waits.alone, _, written, .markUp sweeping rfl waits.kept⟩
  | markDown window up =>
    obtain ⟨waits, effect⟩ := Services.setStatusFailing_ends alone fails window .outside .down
    simp only [Watch.sweep, SweepPhase.step, Services.backendFailing]
    generalize w.services.setStatusFailing fails window .outside .down = after at *
    obtain ⟨result, services⟩ := after
    rcases effect with ⟨fault, rfl, same⟩ | ⟨_, now, held', rfl, written⟩
    · exact ⟨waits.alone, t, same.trans held,
        .aside (by simp [sweeping]) (by rintro _ ⟨⟩; simp) waits.kept⟩
    · cases held.symm.trans held'
      exact ⟨waits.alone, _, written, .markDown sweeping rfl waits.kept⟩
  | finish => exact ⟨alone, t, held, .aside (by simp [sweeping]) (by rintro _ ⟨⟩; simp) kept⟩
  | conclude => exact ⟨alone, t, held, .aside (by simp [sweeping]) (by rintro _ ⟨⟩) kept⟩
  | done => exact ⟨alone, t, held, .aside (by simp [sweeping]) (by rintro _ ⟨⟩) kept⟩

/-- **One step of a daemon** and its effect on what the sweeps look at. -/
theorem Step.effect (alone : w.services.Alone) (held : w.services.database.table = some t)
    (step : Step w w') :
    w'.services.Alone ∧ ∃ t', w'.services.database.table = some t' ∧ Effect w w' t t' := by
  cases step with
  | arrive => exact ⟨alone, t, held, .work .same rfl fun _ => id⟩
  | @work i signal phase =>
    obtain ⟨alone', seen, t', held', gains⟩ := phase.step_works alone held signal
    exact ⟨alone', t', held', .work gains rfl seen⟩
  | begin idle =>
    exact ⟨alone, t, held, .aside (by simp [idle]) (by rintro _ ⟨⟩; simp) fun _ => id⟩
  | sweep fails sweeping => exact sweep_effect alone held sweeping fails
  | elsewhere alone' tracker database =>
    exact ⟨alone', t, database ▸ held, .work .same rfl (tracker ▸ fun _ => id)⟩

/-- No call is past its mark and yet marking. -/
def Plain (w : Watch) : Prop := ∀ call ∈ w.calls, call.2 ≠ .mark .done

theorem Step.plain (plain : w.Plain) (step : Step w w') : w'.Plain := by
  cases step with
  | arrive signal =>
    intro call member
    rcases List.mem_append.mp member with old | new
    · exact plain call old
    · cases List.mem_singleton.mp new
      rintro ⟨⟩
  | @work i signal phase found =>
    intro call member
    rcases List.mem_or_eq_of_mem_set member with old | rfl
    · exact plain call old
    · exact phase.step_ne_done
  | begin => exact plain
  | sweep => exact plain
  | elsewhere => exact plain

/-- The step that ends a call's mark leaves its address in the tracker. -/
theorem Step.seen_of_marked {i : Nat} {signal : Signal} {mark : Tracker.MarkPhase}
    {phase : ProcessPhase} (plain : w.Plain) (step : Step w w')
    (before : w.calls[i]? = some (signal, .mark mark))
    (after : w'.calls[i]? = some (signal, phase)) (marked : ∀ other, phase ≠ .mark other) :
    signal.address ∈ w'.services.tracker.seen := by
  have unmoved : w'.calls[i]? = w.calls[i]? → signal.address ∈ w'.services.tracker.seen := by
    intro same
    rw [same, before] at after
    cases after
    exact absurd rfl (marked mark)
  cases step with
  | arrive =>
    obtain ⟨inside, -⟩ := List.getElem?_eq_some_iff.mp before
    exact unmoved (List.getElem?_append_left inside)
  | @work j other at_ found =>
    by_cases same : j = i
    · subst same
      rw [before] at found
      cases found
      obtain ⟨inside, -⟩ := List.getElem?_eq_some_iff.mp before
      have pending : mark ≠ .done := by
        rintro rfl
        exact plain _ (List.mem_of_getElem? before) rfl
      simp only [Watch.work, List.getElem?_set_self inside, Option.some.injEq, Prod.mk.injEq,
        true_and] at after
      exact ProcessPhase.seen_of_marked pending (after ▸ marked)
    · exact unmoved (List.getElem?_set_ne same)
  | begin => exact unmoved rfl
  | sweep => exact unmoved rfl
  | elsewhere => exact unmoved rfl

theorem Effect.nodup (effect : Effect w w' t t') (unique : t.addresses.Nodup) :
    t'.addresses.Nodup := by
  cases effect with
  | work gains => exact gains.nodup unique
  | take => exact unique
  | markUp => rwa [Table.addresses_update]
  | markDown => rwa [Table.addresses_update]
  | aside => exact unique

/-- Only the second update of a sweep takes a row down. -/
theorem Effect.down (effect : Effect w w' t t') {row : Store.Row} (member : row ∈ t'.rows)
    (down : row.IsDown) :
    (∃ old ∈ t.rows, old.address = row.address ∧ old.IsDown) ∨
      ∃ window up count, w.sweeping = some (.markDown window up) ∧
        w'.sweeping = some (.finish window.length up count) ∧ row.address ∉ window := by
  cases effect with
  | work gains =>
    rcases gains.mem member with old | up
    · exact .inl ⟨row, old, rfl, down⟩
    · exact absurd down up.not_isDown
  | take => exact .inl ⟨row, member, rfl, down⟩
  | markUp =>
    obtain ⟨old, present, -, named, status⟩ := Table.row_of_update member
    split at status
    · exact absurd down (Store.Row.IsUp.not_isDown status)
    · exact .inl ⟨old, present, named.symm, status.symm.trans down⟩
  | @markDown window _ count up sweeping next =>
    obtain ⟨old, present, -, named, status⟩ := Table.row_of_update member
    split at status
    · rename_i selected
      exact .inr ⟨window, up, count, sweeping, next, by simpa [Store.Membership.selects] using selected⟩
    · exact .inl ⟨old, present, named.symm, status.symm.trans down⟩
  | aside => exact .inl ⟨row, member, rfl, down⟩

end Watch
end Heartbeat
