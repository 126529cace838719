import Heartbeat.Proofs.Pipeline.Intake

/-! From the workers to the archive. As long as a worker is there the archive is open, so that no worker
ever finds it stopped; and what the archive was given are the items of the signals that were processed, but
for those whose worker has still to count them. -/
namespace Heartbeat
open Archive (Writer Item)

/-- The item under which a signal was queued for the archive. -/
def Processed.item (processed : Processed) (signal : Signal) : Item :=
  ⟨processed.documentId, Document.ofSignal processed.record signal⟩

/-- The item of a signal whose processing succeeded. -/
def archived : Signal × Except ProcessFault Processed → Option Item
  | (signal, .ok processed) => some (processed.item signal)
  | (_, .error _) => none

/-- The item that a worker has queued but not counted. -/
def Worker.queued? : Worker → Option Item
  | .busy signal (.count processed) => some (processed.item signal)
  | _ => none

namespace ProcessPhase

variable {s : Services} {signal : Signal} {phase : ProcessPhase}

/-- What an operation of a signal has to do with the archive. -/
inductive Archives (signal : Signal) (s : Services) : ProcessPhase → ProcessPhase → Services → Prop
  | aside {phase next : ProcessPhase} {s' : Services} (archive : s'.archive = s.archive)
      (uncounted : ∀ processed, phase ≠ .count processed)
      (unqueued : ∀ processed, next ≠ .count processed)
      (fails : ∀ result, next = .done result → ∃ fault, result = .error (.resolve fault)) :
      Archives signal s phase next s'
  | queue {record : Record} {resolution : Resolution} {id : String} {s' : Services}
      (archive : s'.archive = { s.archive with
        queue := s.archive.queue ++ [⟨id, Document.ofSignal record signal⟩] }) :
      Archives signal s (.submit record resolution) (.count ⟨record, resolution, id⟩) s'
  | closed {record : Record} {resolution : Resolution} {s' : Services}
      (archive : s'.archive = s.archive) (ended : s.archive.mode? = none) :
      Archives signal s (.submit record resolution) (.done (.error .archiveClosed)) s'
  | count {processed : Processed} {s' : Services} (archive : s'.archive = s.archive.count) :
      Archives signal s (.count processed) (.done (.ok processed)) s'

/-- Only the last two operations of a signal touch the archive. -/
theorem archives (undone : ∀ result, phase ≠ .done result) :
    Archives signal s phase (phase.step Services.backend signal s).1
      (phase.step Services.backend signal s).2 := by
  cases phase with
  | mark mark =>
    cases mark with
    | look =>
      simp only [step]
      split <;> exact .aside rfl (by rintro _ ⟨⟩) (by rintro _ ⟨⟩) (by rintro _ ⟨⟩)
    | add => exact .aside rfl (by rintro _ ⟨⟩) (by rintro _ ⟨⟩) (by rintro _ ⟨⟩)
    | done => exact .aside rfl (by rintro _ ⟨⟩) (by rintro _ ⟨⟩) (by rintro _ ⟨⟩)
  | resolve phase =>
    have only := phase.step_storeOnly signal.address s
    simp only [step]
    generalize phase.step Services.backend signal.address s = after at only
    obtain ⟨next, s'⟩ := after
    cases only with | mk tracker database disturbances readings =>
    refine .aside rfl (by rintro _ ⟨⟩) ?_ ?_
    · intro processed
      unfold afterResolve
      split <;> rintro ⟨⟩
    · intro result
      unfold afterResolve
      split
      · rintro ⟨⟩
      · rintro ⟨⟩; exact ⟨_, rfl⟩
      · rintro ⟨⟩
  | stamp => exact .aside rfl (by rintro _ ⟨⟩) (by rintro _ ⟨⟩) (by rintro _ ⟨⟩)
  | cache =>
    simp only [step, cacheRecord, Services.backend, Services.cacheSet]
    split <;> exact .aside rfl (by rintro _ ⟨⟩) (by rintro _ ⟨⟩) (by rintro _ ⟨⟩)
  | submit record resolution =>
    simp only [step, Services.backend, Services.enqueue]
    rcases s.archive.enqueue_cases ⟨s.documentId s.documents, Document.ofSignal record signal⟩ with
      ⟨refused, ended⟩ | queued
    · rw [refused]
      exact .closed rfl ended
    · rw [queued]
      exact .queue rfl
  | count => exact .count rfl
  | done result => exact absurd rfl (undone result)

end ProcessPhase

/-- The workers, what they have done, and the archive they submit to. -/
structure Archival where
  workers : List Worker
  finished : List (Signal × Except ProcessFault Processed)
  archive : Writer

/-- A daemon's workers and archive. -/
def Daemon.archival (d : Daemon) : Archival where
  workers := d.pipeline.workers
  finished := d.pipeline.finished
  archive := d.pipeline.services.archive

namespace Archival

variable {v : Archival} {i : Nat} {signal : Signal} {phase next : ProcessPhase}

/-- All workers are gone. -/
def Joined (v : Archival) : Prop := v.workers.all Worker.isGone = true

/-- The items of the signals whose processing succeeded, or has nothing left but to be counted. -/
def items (v : Archival) : List Item :=
  v.finished.filterMap archived ++ v.workers.filterMap Worker.queued?

/-- The invariant of the workers and the archive. -/
structure Sound (v : Archival) : Prop where
  writer : v.archive.Sound
  opened : ¬ v.Joined → v.archive.Open
  undone : ∀ signal result, Worker.busy signal (.done result) ∉ v.workers
  given : v.archive.given.Perm v.items
  submitted : v.archive.stats.submitted = (v.finished.filterMap archived).length
  received : ∀ entry ∈ v.finished, entry.2 ≠ .error .archiveClosed

/-- A worker that is not gone keeps the archive open. -/
theorem Sound.isOpen (sound : v.Sound) {worker : Worker} (at_ : v.workers[i]? = some worker)
    (here : worker.isGone = false) : v.archive.Open := by
  refine sound.opened fun joined => ?_
  have gone := List.all_eq_true.mp joined worker (List.mem_of_getElem? at_)
  simp [here] at gone

theorem undone_set {new : Worker} (old : ∀ signal result, Worker.busy signal (.done result) ∉ v.workers)
    (here : ∀ signal result, Worker.busy signal (.done result) ≠ new) :
    ∀ signal result, Worker.busy signal (.done result) ∉ v.workers.set i new := by
  intro signal result member
  rcases List.mem_or_eq_of_mem_set member with present | same
  · exact old signal result present
  · exact here signal result same

/-- A worker changes without having to do with the archive. -/
theorem Sound.set (sound : v.Sound) {old : Worker} (new : Worker)
    (at_ : v.workers[i]? = some old) (here : old.isGone = false)
    (undone : ∀ signal result, Worker.busy signal (.done result) ≠ new)
    (before : old.queued? = none) (after : new.queued? = none) :
    { v with workers := v.workers.set i new }.Sound where
  writer := sound.writer
  opened _ := sound.isOpen at_ here
  undone := undone_set sound.undone undone
  given := by
    have moved := filterMap_set_perm (f := Worker.queued?) new at_
    simp only [before, after, Option.toList_none, List.nil_append] at moved
    exact sound.given.trans (List.Perm.append_left _ moved.symm)
  submitted := sound.submitted
  received := sound.received

/-- A worker has its next operation done, and goes on. -/
theorem Sound.work (sound : v.Sound) {s s' : Services} (same : s.archive = v.archive)
    (busy : v.workers[i]? = some (.busy signal phase))
    (step : phase.Archives signal s next s') (unfinished : ∀ result, next ≠ .done result) :
    { v with workers := v.workers.set i (.busy signal next), archive := s'.archive }.Sound := by
  have undone : ∀ other result, Worker.busy other (.done result) ≠ .busy signal next := by
    rintro _ result ⟨⟩
    exact unfinished result rfl
  cases step with
  | aside archive uncounted unqueued =>
    rw [archive, same]
    refine sound.set _ busy rfl undone ?_ ?_
    · cases phase <;> first | rfl | exact absurd rfl (uncounted _)
    · cases next <;> first | rfl | exact absurd rfl (unqueued _)
  | @queue record resolution id _ archive =>
    rw [archive, same]
    have isOpen := sound.isOpen busy rfl
    have moved := filterMap_set_perm (f := Worker.queued?)
      (.busy signal (.count ⟨record, resolution, id⟩)) busy
    simp only [Worker.queued?, Option.toList_none, Option.toList_some, List.nil_append] at moved
    refine ⟨sound.writer.enqueue isOpen _, fun _ => isOpen, undone_set sound.undone undone, ?_,
      sound.submitted, sound.received⟩
    simp only [Writer.given_enqueue]
    refine (sound.given.append_right _).trans ?_
    rw [items, List.append_assoc]
    exact List.Perm.append_left _ ((List.perm_append_singleton _ _).trans moved.symm)
  | closed => exact absurd rfl (unfinished _)
  | count => exact absurd rfl (unfinished _)

/-- A worker has its last operation done. -/
theorem Sound.finish (sound : v.Sound) {s s' : Services} (same : s.archive = v.archive)
    {result : Except ProcessFault Processed} (busy : v.workers[i]? = some (.busy signal phase))
    (step : phase.Archives signal s (.done result) s') :
    { workers := v.workers.set i .idle
      finished := (signal, result) :: v.finished
      archive := s'.archive : Archival }.Sound := by
  have isOpen := sound.isOpen busy rfl
  cases step with
  | aside archive uncounted _ fails =>
    obtain ⟨fault, rfl⟩ := fails result rfl
    have before : (Worker.busy signal phase).queued? = none := by
      cases phase <;> first | rfl | exact absurd rfl (uncounted _)
    have after := sound.set .idle busy rfl (by rintro _ _ ⟨⟩) before rfl
    rw [archive, same]
    refine ⟨after.writer, after.opened, after.undone, after.given, after.submitted, ?_⟩
    rintro entry (_ | ⟨_, old⟩)
    · rintro ⟨⟩
    · exact sound.received entry old
  | closed archive ended =>
    rw [same, sound.writer.serving isOpen] at ended
    cases ended
  | @count processed _ archive =>
    rw [archive, same]
    have moved := filterMap_set_perm (f := Worker.queued?) .idle busy
    simp only [Worker.queued?, Option.toList_none, Option.toList_some, List.nil_append] at moved
    refine ⟨⟨sound.writer.serving, sound.writer.spent⟩, fun _ => isOpen,
      undone_set sound.undone (by rintro _ _ ⟨⟩), ?_, ?_, ?_⟩
    · refine sound.given.trans ?_
      refine (List.Perm.append_left _ moved.symm).trans ?_
      exact List.perm_middle
    · simp [archived, Writer.count, sound.submitted]
    · rintro entry (_ | ⟨_, old⟩)
      · rintro ⟨⟩
      · exact sound.received entry old

theorem Sound.worked {d : Daemon} {p : Pipeline} (sound : d.archival.Sound)
    (step : d.pipeline.Worked i p) :
    { d with pipeline := p }.archival.Sound := by
  cases step with
  | takes idle => exact sound.set _ idle rfl (by rintro _ _ ⟨⟩) rfl rfl
  | parks => exact sound
  | leaves idle => exact sound.set _ idle rfl (by rintro _ _ ⟨⟩) rfl rfl
  | works busy unfinished =>
    refine sound.work rfl busy (ProcessPhase.archives ?_) unfinished
    rintro result rfl
    exact sound.undone _ result (List.mem_of_getElem? busy)
  | @finishes signal phase result busy finished =>
    have step : ProcessPhase.Archives signal d.pipeline.services phase (.done result) _ :=
      finished ▸ ProcessPhase.archives (by
        rintro result rfl
        exact sound.undone _ result (List.mem_of_getElem? busy))
    exact sound.finish rfl busy step

end Archival
end Heartbeat
