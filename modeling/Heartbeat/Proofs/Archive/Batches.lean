import Heartbeat.Proofs.Archive.Ledger

/-! The batches of the archive's writer. Together they are what was queued, in that order and as far as it got,
and none of it twice. A batch that is not full was due to the timer, or it was the last one. The task makes a
buffer for a whole batch before its first move; if that is too large for a buffer there are no batches at all. -/
namespace Heartbeat.Archive

namespace Writer

variable {w w' : Writer} {now : Nat}

/-- A move starts a bulk call with this batch, and has a reason to. -/
structure Sends (w : Writer) (now : Nat) (move : Move) (w' : Writer) (batch : List Item) : Prop where
  added : w'.batches = w.batches ++ [batch]
  some : 1 ≤ batch.length
  fits : batch.length ≤ w.limit
  reason : batch.length = w.limit ∨ (move = .tick ∧ w.nextTick ≤ now) ∨
    (w.phase = .idle .draining ∧ w'.Late)

theorem Moved.settings {move : Move} (moved : w.Moved now move w') : w'.settings = w.settings := by
  cases moved <;> rfl

theorem limit_pos (w : Writer) : 0 < w.limit := Nat.le_max_left 1 _

/-- The buffer never holds a full batch between two moves. -/
theorem Moved.room {move : Move} (moved : w.Moved now move w') (room : w.buffer.length < w.limit) :
    w'.buffer.length < w'.limit := by
  cases moved with
  | rests => exact room
  | @buffers _ _ item _ _ _ _ more =>
    show (w.buffer ++ [item]).length < w.limit
    rwa [List.length_append]
  | fills => exact w.limit_pos
  | skips => exact room
  | ticks => exact w.limit_pos
  | notices => exact room
  | finishes => exact room
  | parts => exact w.limit_pos
  | stops => exact room
  | concludes => exact room

theorem Moved.sends {move : Move} (moved : w.Moved now move w') (room : w.buffer.length < w.limit) :
    w'.batches = w.batches ∨ ∃ batch, w.Sends now move w' batch := by
  cases moved with
  | rests => exact .inl rfl
  | buffers => exact .inl rfl
  | @fills _ _ item _ _ _ _ full =>
    have size : (w.buffer ++ [item]).length = w.buffer.length + 1 := List.length_append
    have all : (w.buffer ++ [item]).length = w.limit := by omega
    exact .inr ⟨_, rfl, size ▸ Nat.le_add_left 1 _, Nat.le_of_eq all, .inl all⟩
  | skips => exact .inl rfl
  | ticks _ due some =>
    exact .inr ⟨_, rfl, List.length_pos_iff.mpr some, Nat.le_of_lt room, .inr (.inl ⟨rfl, due⟩)⟩
  | notices => exact .inl rfl
  | finishes => exact .inl rfl
  | parts idle _ some =>
    exact .inr ⟨_, rfl, List.length_pos_iff.mpr some, Nat.le_of_lt room, .inr (.inr ⟨idle, .inl rfl⟩)⟩
  | stops => exact .inl rfl
  | concludes => exact .inl rfl

end Writer

namespace Ledger

variable {l : Ledger}

/-! ## The sizes of the batches -/

/-- No batch is empty or too large, and what is buffered is not a batch yet. -/
structure Sized (size : Nat) (l : Ledger) : Prop where
  limit : l.writer.limit = size
  room : l.writer.buffer.length < size
  sized : ∀ batch ∈ l.writer.batches, 1 ≤ batch.length ∧ batch.length ≤ size

variable {size : Nat}

theorem Sized.move (sized : l.Sized size) {now : Nat} {move : Move} {w : Writer}
    (moved : l.writer.Moved now move w) (calls : List (List Item × BulkReply)) :
    { l with writer := w, calls }.Sized size := by
  have same : w.limit = size :=
    (congrArg (fun settings => max 1 settings.batchSize) moved.settings).trans sized.limit
  have room : l.writer.buffer.length < l.writer.limit := sized.limit ▸ sized.room
  refine ⟨same, same ▸ moved.room room, fun batch mem => ?_⟩
  rcases moved.sends room with none | ⟨last, sends⟩
  · exact sized.sized batch (none ▸ mem)
  · rcases List.mem_append.mp (sends.added ▸ mem) with before | here
    · exact sized.sized batch before
    · rw [List.mem_singleton.mp here]
      exact ⟨sends.some, sized.limit ▸ sends.fits⟩

theorem Sized.after (sized : l.Sized size) (event : Event) : (l.after event).Sized size := by
  have happened := l.happened event
  generalize l.after event = l' at happened ⊢
  cases happened with
  | refuses => exact sized
  | queues => exact ⟨sized.limit, sized.room, sized.sized⟩
  | counts => exact ⟨sized.limit, sized.room, sized.sized⟩
  | closes => exact ⟨sized.limit, sized.room, sized.sized⟩
  | deserts => exact ⟨sized.limit, sized.room, sized.sized⟩
  | moves moved => exact sized.move moved _

theorem sized_run (settings : Settings) (time : Nat) (events : List Event) :
    ((start settings time).run events).Sized (max 1 settings.batchSize) :=
  run_induction ⟨rfl, Nat.le_max_left 1 _, nofun⟩ (fun _ event sized => sized.after event) events

/-! ## The reasons for the batches -/

/-- A writer that has parted with its last document sends nothing more. -/
theorem late_run (late : l.writer.Late) (events : List Event) :
    (l.run events).writer.batches = l.writer.batches := by
  have still : (l.run events).writer.Late ∧ (l.run events).writer.batches = l.writer.batches := by
    refine run_induction (motive := fun l' => l'.writer.Late ∧ l'.writer.batches = l.writer.batches)
      ⟨late, rfl⟩ (fun l' event before => ?_) events
    have happened := l'.happened event
    generalize l'.after event = l'' at happened ⊢
    cases happened with
    | refuses => exact before
    | queues => exact before
    | counts => exact before
    | closes => exact before
    | deserts => exact before
    | moves moved =>
      obtain ⟨late, same, -, -⟩ := moved.late before.1
      exact ⟨late, same.trans before.2⟩
  exact still.2

/-- An event starts a bulk call for a full batch, or for a timer that is due, or for the last batch of all. -/
theorem batch_started (sound : l.Sound) (sized : l.Sized size) (event : Event) (later : List Event) :
    (l.after event).writer.batches = l.writer.batches ∨
    ∃ batch, (l.after event).writer.batches = l.writer.batches ++ [batch] ∧
      (batch.length = size ∨ (∃ now, event = .move now .tick ∧ l.writer.nextTick ≤ now) ∨
        ((l.writer.closed = true ∨ l.writer.deserted = true) ∧
          ((l.after event).run later).writer.batches = l.writer.batches ++ [batch])) := by
  have happened := l.happened event
  generalize l.after event = l' at happened ⊢
  cases happened with
  | refuses => exact .inl rfl
  | queues => exact .inl rfl
  | counts => exact .inl rfl
  | closes => exact .inl rfl
  | deserts => exact .inl rfl
  | @moves now move w moved =>
    rcases moved.sends (sized.limit ▸ sized.room) with none | ⟨batch, sends⟩
    · exact .inl none
    · refine .inr ⟨batch, sends.added, ?_⟩
      rcases sends.reason with full | ⟨rfl, due⟩ | ⟨draining, late⟩
      · exact .inl (full.trans sized.limit)
      · exact .inr (.inl ⟨now, rfl, due⟩)
      · have barred : ¬ l.writer.Open := fun isOpen => by
          cases (Writer.mode_idle draining).symm.trans (sound.serving isOpen)
        exact .inr (.inr ⟨Writer.shut_of_not_open barred, (late_run late later).trans sends.added⟩)

/-! ## A task that fails to begin -/

/-- The task makes its buffer. -/
def begun (l : Ledger) : Ledger := { l with writer := l.writer.begun }

/-- A task that has ended takes no document and sends none. -/
theorem stopped_run (stopped : l.writer.phase = .stopped) (events : List Event) :
    (l.run events).writer.phase = .stopped ∧ (l.run events).writer.batches = l.writer.batches ∧
      (l.run events).entered = l.entered := by
  refine run_induction (motive := fun l' => l'.writer.phase = .stopped ∧
    l'.writer.batches = l.writer.batches ∧ l'.entered = l.entered)
    ⟨stopped, rfl, rfl⟩ (fun l' event before => ?_) events
  have happened := l'.happened event
  generalize l'.after event = l'' at happened ⊢
  cases happened with
  | refuses => exact before
  | queues item attended running => exact absurd before.1 running
  | counts => exact before
  | closes => exact before
  | deserts => exact before
  | moves moved =>
    obtain rfl := moved.stopped before.1
    exact before

/-- What is no move of the task sends nothing. -/
theorem unmoved_after {event : Event} (idle : ∀ now move, event ≠ .move now move) :
    (l.after event).writer.batches = l.writer.batches ∧ (l.after event).writer.settings = l.writer.settings := by
  have happened := l.happened event
  generalize l.after event = l' at happened ⊢
  cases happened with
  | moves => exact absurd rfl (idle _ _)
  | _ => exact ⟨rfl, rfl⟩

theorem unmoved_run {events : List Event} (idle : ∀ now move, Event.move now move ∉ events) :
    (l.run events).writer.batches = l.writer.batches ∧ (l.run events).writer.settings = l.writer.settings := by
  induction events generalizing l with
  | nil => exact ⟨rfl, rfl⟩
  | cons event events ih =>
    have first : ∀ now move, event ≠ .move now move := fun now move moves => idle now move (moves ▸ .head _)
    obtain ⟨unsent, same⟩ := l.unmoved_after first
    obtain ⟨batches, settings⟩ := ih (l := l.after event) fun now move later => idle now move (.tail _ later)
    exact ⟨batches.trans unsent, settings.trans same⟩

/-- **The batches are the queue, cut into pieces.** However a writer is used and whatever becomes of its calls:
what it hands to the index is, in order, a beginning of what was queued. Every batch has at least one
document and no more than it may; one that has fewer is due to the timer, or it is the last one of a writer
that is closed or deserted. Until then no document is refused, and once the writer has stopped, all that were
queued before it was closed are with the index. That is so as long as a buffer can be made for a batch. A task
with larger batches ends as it begins: no document is ever sent, not even one that was queued before, and all
others are refused. -/
theorem batches_follow_queue {settings : Settings} {time : Nat} {first events : List Event} {l : Ledger}
    (idle : ∀ now move, Event.move now move ∉ first)
    (lived : ((start settings time).run first).begun.run events = l) :
    (settings.fits = true →
      l.writer.sent <+: l.entered ∧
      (∀ batch ∈ l.writer.batches, 1 ≤ batch.length ∧ batch.length ≤ max 1 settings.batchSize) ∧
      (∀ (before later : List Event) (event : Event) (here : Ledger),
        first ++ events = before ++ event :: later → (start settings time).run before = here →
        (here.after event).writer.batches = here.writer.batches ∨
        ∃ batch, (here.after event).writer.batches = here.writer.batches ++ [batch] ∧
          (batch.length = max 1 settings.batchSize ∨
            (∃ now, event = .move now .tick ∧ here.writer.nextTick ≤ now) ∨
            ((here.writer.closed = true ∨ here.writer.deserted = true) ∧
              l.writer.batches = here.writer.batches ++ [batch]))) ∧
      (l.writer.Open → ∀ item, l.writer.enqueue? item ≠ none) ∧
      (l.writer.phase = .stopped → l.early <+: l.writer.sent)) ∧
    (settings.fits = false →
      l.writer.batches = [] ∧ l.entered = ((start settings time).run first).entered ∧
      ∀ item, l.writer.enqueue? item = none) := by
  obtain ⟨unsent, same⟩ := unmoved_run (l := start settings time) idle
  replace same : ((start settings time).run first).writer.settings = settings := same
  refine ⟨fun fits => ?_, fun unfit => ?_⟩
  · have begun : ((start settings time).run first).begun = (start settings time).run first := by
      rw [Ledger.begun, Writer.begun, same, if_pos fits]
    have lived : (start settings time).run (first ++ events) = l := by
      rw [run_append, ← lived, begun]
    have sound : l.Sound := lived ▸ sound_run settings time _
    have sized : l.Sized (max 1 settings.batchSize) := lived ▸ sized_run settings time _
    refine ⟨sound.sent_prefix, sized.sized, ?_, fun isOpen item refused => ?_, fun stopped => ?_⟩
    · rintro before later event here split reached
      have last : (here.after event).run later = l := by rw [← lived, split, run_append, reached]; rfl
      rw [← last]
      exact batch_started (reached ▸ sound_run settings time before)
        (reached ▸ sized_run settings time before) event later
    · rcases l.writer.enqueue_cases item with ⟨-, none⟩ | queued
      · exact sound.not_late isOpen (.inr none)
      · cases refused.symm.trans queued
    · rw [sound.spent (.inr (by rw [Writer.mode?, stopped]))]
      exact sound.early
  · have begun : ((start settings time).run first).begun.writer = ((start settings time).run first).writer.fail := by
      rw [Ledger.begun, Writer.begun, same, if_neg (Bool.eq_false_iff.mp unfit)]
    have stopped : ((start settings time).run first).begun.writer.phase = .stopped := by rw [begun]; rfl
    obtain ⟨still, batches, entered⟩ := stopped_run stopped events
    rw [lived] at still batches entered
    refine ⟨?_, entered, fun item => (l.writer.enqueue_eq_none_iff item).mpr still⟩
    rw [batches, begun]
    exact unsent

/-- A short life whose first documents are queued before the task begins. -/
def shortLedger : Ledger := ((start ⟨2, 10, 5⟩ 0).run (shortLife.take 3)).begun.run (shortLife.drop 3)

/-- A short life ends with the documents in three batches, in their order; the one that came too late is in
none of them. -/
theorem batches_follow_queue_shortly :
    (⟨2, 10, 5⟩ : Settings).fits = true ∧
    shortLedger.writer.batches = [[page "a", page "b"], [page "c"], [page "d"]] ∧
    shortLedger.entered = ["a", "b", "c", "d", "e"].map page ∧
    ["a", "b", "c", "d"].map page <+: shortLedger.writer.sent := by
  have idle : ∀ now move, Event.move now move ∉ shortLife.take 3 := by simp [shortLife]
  have fits : (⟨2, 10, 5⟩ : Settings).fits = true := by decide
  obtain ⟨law, -⟩ := batches_follow_queue (l := shortLedger) idle rfl
  obtain ⟨-, -, -, -, settled⟩ := law fits
  have stopped : shortLedger.writer.phase = .stopped := by decide +kernel
  have early : shortLedger.early = ["a", "b", "c", "d"].map page := by decide +kernel
  exact ⟨fits, by decide +kernel, by decide +kernel, early ▸ settled stopped⟩

/-- A writer of batches of 2^56 documents, with one document that is queued before the task begins. -/
def vastLedger : Ledger := ((start ⟨72057594037927936, 10, 5⟩ 0).run [.enqueue (page "a")]).begun

/-- The document that was queued is in no batch when the task has ended, and the next one is refused although
nobody has closed the writer. -/
theorem largest_batches_are_none :
    vastLedger.early = [page "a"] ∧ vastLedger.writer.phase = .stopped ∧ vastLedger.writer.sent = [] ∧
    vastLedger.writer.Open ∧ vastLedger.writer.enqueue? (page "b") = none := by
  refine ⟨?_, ?_, ?_, ⟨?_, ?_⟩, ?_⟩ <;> decide +kernel

end Ledger
end Heartbeat.Archive
