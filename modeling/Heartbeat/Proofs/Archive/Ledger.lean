import Heartbeat.Proofs.Archive.Moves

/-! The archive's writer among those who use it. Documents are queued and counted, the timer ticks, bulk calls
end in some way, somebody closes the writer or the last submitter goes, all of it in any order and at any
time. A ledger is kept beside the writer, of what went in and of how each bulk call ended. What was queued
before the task looked into the queue for the last time is still there and in its order, and all of it is
with the index from then on. -/
namespace Heartbeat.Archive

/-- Something that happens to a writer. -/
inductive Event where
  | enqueue (item : Item)
  /-- Somebody counts a document that was queued. -/
  | count
  | close
  /-- The last one who could submit goes. -/
  | desert
  | move (now : Nat) (move : Move)

/-- A writer and its books. -/
structure Ledger where
  writer : Writer
  /-- The documents that were queued, oldest first. -/
  entered : List Item := []
  /-- Those of them that were queued before the writer was closed. -/
  early : List Item := []
  /-- Those of them that were queued before the task had looked into the queue for the last time. -/
  timely : List Item := []
  /-- The bulk calls that are over, with their replies, oldest first. -/
  calls : List (List Item × BulkReply) := []

namespace Ledger

variable {l : Ledger}

def start (settings : Settings) (now : Nat) : Ledger := { writer := .start settings now }

/-- The ledger when a document has been queued. -/
def booked (l : Ledger) (item : Item) : Ledger :=
  { l with
    writer := { l.writer with queue := l.writer.queue ++ [item] }
    entered := l.entered ++ [item]
    early := if l.writer.closed then l.early else l.early ++ [item]
    timely := if l.writer.Late then l.timely else l.timely ++ [item] }

/-- A document is queued, unless the task has ended. -/
def enqueue (l : Ledger) (item : Item) : Ledger :=
  match l.writer.enqueue? item with
  | some writer => { l.booked item with writer }
  | none => l

theorem enqueue_eq (l : Ledger) (item : Item) :
    l.enqueue item = if l.writer.phase = .stopped then l else l.booked item := by
  unfold enqueue Writer.enqueue?
  split <;> simp_all [booked]

/-- What is left when the event has happened. Nobody queues anything once the last one has gone. -/
def after (l : Ledger) : Event → Ledger
  | .enqueue item => if l.writer.deserted then l else l.enqueue item
  | .count => { l with writer := l.writer.count }
  | .close => { l with writer := l.writer.close }
  | .desert => { l with writer := { l.writer with deserted := true } }
  | .move now move =>
    { l with writer := l.writer.perform now move, calls := l.calls ++ l.writer.ended move }

def run (l : Ledger) (events : List Event) : Ledger := events.foldl after l

theorem run_append (before later : List Event) : l.run (before ++ later) = (l.run before).run later :=
  List.foldl_append

/-- What holds at first and is kept by every event holds throughout. -/
theorem run_induction {motive : Ledger → Prop} (base : motive l)
    (step : ∀ l event, motive l → motive (l.after event)) (events : List Event) :
    motive (l.run events) := by
  induction events generalizing l with
  | nil => exact base
  | cons event events ih => exact ih (step l event base)

/-- Everything that an event can come to. -/
inductive Happened (l : Ledger) : Event → Ledger → Prop where
  /-- The document is refused, or nobody is there to queue it. -/
  | refuses (item : Item) : Happened l (.enqueue item) l
  | queues (item : Item) (attended : l.writer.deserted = false) (running : l.writer.phase ≠ .stopped) :
      Happened l (.enqueue item) (l.booked item)
  | counts : Happened l .count { l with writer := l.writer.count }
  | closes : Happened l .close { l with writer := l.writer.close }
  | deserts : Happened l .desert { l with writer := { l.writer with deserted := true } }
  | moves {now : Nat} {move : Move} {w : Writer} (moved : l.writer.Moved now move w) :
      Happened l (.move now move) { l with writer := w, calls := l.calls ++ l.writer.ended move }

theorem happened (l : Ledger) (event : Event) : l.Happened event (l.after event) := by
  cases event with
  | enqueue item =>
    simp only [after]
    split
    · exact .refuses item
    · rename_i attended
      rw [enqueue_eq]
      split
      · exact .refuses item
      · rename_i running
        exact .queues item (by simpa using attended) running
  | count => exact .counts
  | close => exact .closes
  | desert => exact .deserts
  | move now move => exact .moves (l.writer.moved now move)

/-! ## The order of the documents -/

/-- What was queued in time is still there and in its order, and goes out before the task is late. -/
structure Sound (l : Ledger) : Prop where
  serving : l.writer.Open → l.writer.mode? = some .serving
  ordered : ¬ l.writer.Late → l.writer.given = l.entered ∧ l.timely = l.entered
  spent : l.writer.Late → l.writer.sent = l.timely
  timely : l.timely <+: l.entered
  early : l.early <+: l.timely
  fresh : l.writer.closed = false → l.early = l.entered

theorem Sound.not_late (sound : l.Sound) (isOpen : l.writer.Open) : ¬ l.writer.Late :=
  Writer.not_late (sound.serving isOpen) (by decide)

/-- Everything that was sent was queued, and in that order. -/
theorem Sound.sent_prefix (sound : l.Sound) : l.writer.sent <+: l.entered := by
  by_cases late : l.writer.Late
  · rw [sound.spent late]
    exact sound.timely
  · rw [← (sound.ordered late).1, Writer.given, List.append_assoc]
    exact List.prefix_append _ _

theorem Sound.book (sound : l.Sound) (item : Item) (attended : l.writer.deserted = false) :
    (l.booked item).Sound := by
  have grows : l.entered <+: l.entered ++ [item] := List.prefix_append _ _
  by_cases late : l.writer.Late
  · have barred : ¬ l.writer.Open := fun isOpen => sound.not_late isOpen late
    have closed : l.writer.closed = true :=
      (Writer.shut_of_not_open barred).resolve_right (Bool.eq_false_iff.mp attended)
    have same : l.booked item = { l with
        writer := { l.writer with queue := l.writer.queue ++ [item] }, entered := l.entered ++ [item] } := by
      rw [booked, closed, if_pos rfl, if_pos late]
    rw [same]
    refine ⟨sound.serving, fun here => absurd late here, sound.spent, sound.timely.trans grows, sound.early,
      fun isOpen => ?_⟩
    cases closed.symm.trans isOpen
  · obtain ⟨given, timely⟩ := sound.ordered late
    have all : (l.booked item).timely = l.entered ++ [item] := by rw [booked, if_neg late, timely]
    refine ⟨sound.serving, fun _ => ⟨?_, all⟩, fun spent => absurd spent late, ?_, ?_, fun isOpen => ?_⟩
    · exact (Writer.given_enqueue item).trans (congrArg (· ++ [item]) given)
    · exact all.symm ▸ List.prefix_refl _
    · rw [all]
      by_cases closed : l.writer.closed
      · rw [booked, if_pos closed]
        exact sound.early.trans (sound.timely.trans grows)
      · have fresh := sound.fresh (by simpa using closed)
        simp only [booked, if_neg closed, fresh, List.prefix_refl]
    · have before : l.writer.closed = false := isOpen
      simp [booked, before, sound.fresh before]

theorem Sound.move (sound : l.Sound) {now : Nat} {move : Move} {w : Writer}
    (moved : l.writer.Moved now move w) (calls : List (List Item × BulkReply)) :
    { l with writer := w, calls }.Sound := by
  obtain ⟨closed, deserted⟩ := moved.shut
  refine ⟨fun isOpen => ?_, fun here => ?_, fun late => ?_, sound.timely, sound.early, fun isOpen => ?_⟩
  · have before : l.writer.Open := ⟨closed.symm.trans isOpen.1, deserted.symm.trans isOpen.2⟩
    exact (moved.serving before (sound.serving before)).2
  · have before : ¬ l.writer.Late := fun late => here (moved.late late).1
    have keeps := moved.keeps fun ending => absurd (.inl (Writer.mode_idle ending)) before
    obtain ⟨given, timely⟩ := sound.ordered before
    exact ⟨keeps.given.trans given, timely⟩
  · by_cases before : l.writer.Late
    · have same : w.sent = l.writer.sent := congrArg List.flatten (moved.late before).2.1
      exact same.trans (sound.spent before)
    · -- The task has just parted with its last document, so all that was queued is with the index.
      obtain ⟨-, queue, buffer⟩ := moved.turns_late before late
      have keeps := moved.keeps fun ending => absurd (.inl (Writer.mode_idle ending)) before
      obtain ⟨given, timely⟩ := sound.ordered before
      calc w.sent
        _ = w.given := by rw [Writer.given, queue, buffer, List.append_nil, List.append_nil]
        _ = l.writer.given := keeps.given
        _ = l.timely := given.trans timely.symm
  · exact sound.fresh (closed.symm.trans isOpen)

/-- **Every event keeps the order of the documents.** -/
theorem Sound.after (sound : l.Sound) (event : Event) : (l.after event).Sound := by
  have happened := l.happened event
  generalize l.after event = l' at happened ⊢
  cases happened with
  | refuses => exact sound
  | queues item attended => exact sound.book item attended
  | counts => exact ⟨sound.serving, sound.ordered, sound.spent, sound.timely, sound.early, sound.fresh⟩
  | closes =>
    exact ⟨fun isOpen => Bool.noConfusion isOpen.1, sound.ordered, sound.spent, sound.timely, sound.early,
      fun isOpen => Bool.noConfusion isOpen⟩
  | deserts =>
    exact ⟨fun isOpen => Bool.noConfusion isOpen.2, sound.ordered, sound.spent, sound.timely, sound.early,
      sound.fresh⟩
  | moves moved => exact sound.move moved _

theorem sound_start (settings : Settings) (time : Nat) : (start settings time).Sound where
  serving _ := rfl
  ordered _ := ⟨rfl, rfl⟩
  spent late := absurd late (Writer.not_late rfl (by decide))
  timely := List.prefix_rfl
  early := List.prefix_rfl
  fresh _ := rfl

theorem sound_run (settings : Settings) (time : Nat) (events : List Event) :
    ((start settings time).run events).Sound :=
  run_induction (sound_start settings time) (fun _ event sound => sound.after event) events

/-! ## A short life -/

/-- A document with a name. -/
def page (name : String) : Item := ⟨name, ⟨⟨1, "", name, .up, default, default⟩, 0, 0⟩⟩

/-- Four documents, one of them queued too late, in batches of two: the first call leaves out a document, the
second is for one document when the timer ticks, and fails, and the last is never answered. -/
def shortLife : List Event := [
  .enqueue (page "a"), .count, .enqueue (page "b"), .move 1 .receive, .enqueue (page "c"),
  .move 2 .receive, .move 3 (.conclude (.outcomes [.created "a"])), .move 4 .receive, .move 10 .tick,
  .move 11 (.conclude .failed), .enqueue (page "d"), .close, .move 12 .notice, .move 13 .drain,
  .move 14 .drain, .enqueue (page "e"), .move 20 (.conclude .silent), .move 21 .drain]

end Ledger
end Heartbeat.Archive
