import Heartbeat.Proofs.Pipeline.Archival
import Heartbeat.Proofs.Pipeline.Effects

/-! The tracker, the table and the cache of a pipeline that nobody disturbs. The addresses in them are those
of the signals that workers have taken, and those that the table had at the start; each signal has its
address in both by the time it is finished. -/
namespace Heartbeat
open Store (Table)

/-- The workers, what they have done, and what they have left in the tracker, the table and the cache. -/
structure Registry where
  workers : List Worker
  finished : List (Signal × Except ProcessFault Processed)
  seen : List String
  table : Option Table
  entries : List (String × Cache.Entry)
  written : List (String × String)

/-- A daemon's workers and what they have left. -/
def Daemon.registry (d : Daemon) : Registry where
  workers := d.pipeline.workers
  finished := d.pipeline.finished
  seen := d.pipeline.services.tracker.seen
  table := d.pipeline.services.database.table
  entries := d.pipeline.services.cache.entries
  written := d.written

namespace Registry

variable {v : Registry} {initial : List String} {t : Table} {i : Nat} {signal : Signal}

/-- The signals that workers have taken. -/
def taken (v : Registry) : List Signal := v.finished.map Prod.fst ++ v.workers.filterMap Worker.signal?

/-- The signal has been processed to its end. -/
def Entered (v : Registry) (t : Table) (entry : Signal × Except ProcessFault Processed) : Prop :=
  ∃ processed, entry.2 = .ok processed ∧
    ProcessPhase.Entered entry.1 v.seen t.addresses processed.record

/-- The invariant of the workers over a table, and over a cache that holds what they have written. -/
structure Sound (initial : List String) (t : Table) (v : Registry) : Prop where
  held : v.table = some t
  unique : t.addresses.Nodup
  kept : initial ⊆ t.addresses
  gained : ∀ address ∈ t.addresses, address ∈ initial ∨ address ∈ v.taken.map Signal.address
  marked : ∀ address ∈ v.seen, address ∈ v.taken.map Signal.address
  working : ∀ signal phase, .busy signal phase ∈ v.workers → phase.Backed signal v.seen t.addresses
  entered : ∀ entry ∈ v.finished, v.Entered t entry
  cached : ∀ entry ∈ v.entries, (entry.1, entry.2.value) ∈ v.written
  wrote : ∀ pair ∈ v.written, CachedFor t.addresses pair

theorem Sound.known (sound : v.Sound initial t) :
    ∀ entry ∈ v.entries, CachedFor t.addresses (entry.1, entry.2.value) :=
  fun entry member => sound.wrote _ (sound.cached entry member)

theorem mem_taken {phase : ProcessPhase} (busy : .busy signal phase ∈ v.workers) :
    signal ∈ v.taken := by
  refine List.mem_append_right _ (List.mem_filterMap.mpr ⟨_, busy, ?_⟩)
  rfl

/-- A worker that was idle is at the start of a signal, or gone. -/
theorem Sound.turn (sound : v.Sound initial t) (idle : v.workers[i]? = some .idle) {new : Worker}
    (fine : ∀ signal phase, new = .busy signal phase → phase = .start) :
    { v with workers := v.workers.set i new }.Sound initial t := by
  have grown : v.taken ⊆ { v with workers := v.workers.set i new }.taken := by
    have moved := filterMap_set_perm (f := Worker.signal?) new idle
    intro signal member
    rcases List.mem_append.mp member with before | here
    · exact List.mem_append_left _ before
    · exact List.mem_append_right _ (moved.mem_iff.mpr (List.mem_append_right _ here))
  refine ⟨sound.held, sound.unique, sound.kept, fun address member => ?_, fun address member => ?_, ?_,
    sound.entered, sound.cached, sound.wrote⟩
  · exact (sound.gained address member).imp_right (List.map_subset _ grown ·)
  · exact List.map_subset _ grown (sound.marked address member)
  · intro signal phase busy
    rcases List.mem_or_eq_of_mem_set busy with before | here
    · exact sound.working signal phase before
    · rw [fine signal phase here.symm]
      rintro ⟨⟩

/-- A worker has the next operation of its signal done, and goes on or is finished with it. -/
theorem Sound.step (sound : v.Sound initial t) {s s' : Services} {phase next : ProcessPhase} {t' : Table}
    (busy : v.workers[i]? = some (.busy signal phase))
    (effect : ProcessPhase.Effect signal s t phase next s' t') (seen : v.seen = s.tracker.seen)
    (entries : v.entries = s.cache.entries) {v' : Registry} {new : Worker}
    (workers : v'.workers = v.workers.set i new) (taken : v'.taken.Perm v.taken)
    (seen' : v'.seen = s'.tracker.seen) (table' : v'.table = s'.database.table)
    (entries' : v'.entries = s'.cache.entries) (written : v'.written = v.written ++ phase.writes s)
    (working : ∀ other phase, new = .busy other phase → phase.Backed other v'.seen t'.addresses)
    (finished : ∀ entry ∈ v'.finished, entry ∈ v.finished ∨ v'.Entered t' entry) :
    v'.Sound initial t' := by
  have here : signal.address ∈ v'.taken.map Signal.address :=
    List.mem_map_of_mem (taken.mem_iff.mpr (mem_taken (List.mem_of_getElem? busy)))
  have same {address : String} (member : address ∈ v.taken.map Signal.address) :
      address ∈ v'.taken.map Signal.address := (taken.map Signal.address).mem_iff.mpr member
  have marks : v.seen ⊆ v'.seen := by
    rw [seen, seen']
    exact effect.seen
  refine ⟨table'.trans effect.held, effect.unique sound.unique,
    fun address member => effect.kept (sound.kept member), ?_, ?_, ?_, ?_, ?_, ?_⟩
  · intro address member
    rcases effect.gained address member with before | rfl
    · exact (sound.gained address before).imp_right same
    · exact .inr here
  · intro address member
    rcases effect.marked address (seen' ▸ member) with before | rfl
    · exact same (sound.marked address (seen ▸ before))
    · exact here
  · intro other phase member
    rw [workers] at member
    rcases List.mem_or_eq_of_mem_set member with before | rfl
    · exact (sound.working other phase before).mono marks effect.kept
    · exact working other phase rfl
  · intro entry member
    rcases finished entry member with before | now
    · obtain ⟨processed, eq, entered⟩ := sound.entered entry before
      exact ⟨processed, eq, entered.mono marks effect.kept⟩
    · exact now
  · intro entry member
    rw [written]
    rcases effect.cached entry (entries' ▸ member) with before | now
    · exact List.mem_append_left _ (sound.cached entry (entries ▸ before))
    · exact List.mem_append_right _ now
  · intro pair member
    rw [written] at member
    rcases List.mem_append.mp member with before | now
    · exact (sound.wrote pair before).mono effect.kept
    · exact effect.wrote pair now

/-- A step of a worker in a daemon that is not disturbed, as long as its archive takes documents. -/
theorem Sound.worked {d : Daemon} {p : Pipeline} (sound : d.registry.Sound initial t)
    (quiet : ∀ worker, d.pipeline.workers[i]? = some worker → d.pipeline.services.disturbances = [])
    (running : ∀ worker, d.pipeline.workers[i]? = some worker → worker.isGone = false →
      d.pipeline.services.archive.mode? ≠ none)
    (served : ∀ signal phase, d.pipeline.workers[i]? = some (.busy signal phase) →
      phase.Served d.pipeline.services signal)
    (step : d.pipeline.Worked i p) :
    ∃ t', { d with
      pipeline := p, written := d.written ++ d.pipeline.nextWrite i }.registry.Sound initial t' := by
  have effect {signal : Signal} {phase : ProcessPhase}
      (busy : d.pipeline.workers[i]? = some (.busy signal phase)) :
      ∃ t', ProcessPhase.Effect signal d.pipeline.services t phase
        (phase.step Services.backend signal d.pipeline.services).1
        (phase.step Services.backend signal d.pipeline.services).2 t' :=
    ProcessPhase.step_effect (quiet _ busy) sound.held (running _ busy rfl) (served _ _ busy) sound.known
      (sound.working _ _ (List.mem_of_getElem? busy))
  cases step with
  | takes idle =>
    have silent : d.pipeline.nextWrite i = [] := by rw [Pipeline.nextWrite, idle]
    rw [silent, List.append_nil]
    refine ⟨t, sound.turn idle ?_⟩
    rintro signal phase ⟨⟩
    rfl
  | parks idle =>
    have silent : d.pipeline.nextWrite i = [] := by rw [Pipeline.nextWrite, idle]
    rw [silent, List.append_nil]
    exact ⟨t, sound⟩
  | leaves idle =>
    have silent : d.pipeline.nextWrite i = [] := by rw [Pipeline.nextWrite, idle]
    rw [silent, List.append_nil]
    exact ⟨t, sound.turn idle (by rintro _ _ ⟨⟩)⟩
  | @works signal phase busy =>
    obtain ⟨t', effect⟩ := effect busy
    have writes : d.pipeline.nextWrite i = phase.writes d.pipeline.services := by
      rw [Pipeline.nextWrite, busy]
    have moved := filterMap_set_perm (f := Worker.signal?)
      (.busy signal (phase.step Services.backend signal d.pipeline.services).1) busy
    refine ⟨t', sound.step busy effect rfl rfl rfl ?_ rfl rfl rfl ?_ ?_ fun _ => .inl⟩
    · exact List.Perm.append_left _ (List.perm_cons signal |>.mp moved)
    · exact congrArg (d.written ++ ·) writes
    · rintro other next ⟨⟩
      exact effect.backed
  | @finishes signal phase result busy finished =>
    obtain ⟨t', effect⟩ := effect busy
    have writes : d.pipeline.nextWrite i = phase.writes d.pipeline.services := by
      rw [Pipeline.nextWrite, busy]
    have moved := filterMap_set_perm (f := Worker.signal?) .idle busy
    refine ⟨t', sound.step busy effect rfl rfl rfl ?_ rfl rfl rfl ?_ (by rintro _ _ ⟨⟩) ?_⟩
    · refine List.Perm.trans ?_ (List.Perm.append_left _ moved)
      exact List.perm_middle.symm
    · exact congrArg (d.written ++ ·) writes
    · rintro entry (_ | ⟨_, before⟩)
      · have backed := effect.backed
        rw [finished] at backed
        exact .inr backed
      · exact .inl before

end Registry
end Heartbeat
