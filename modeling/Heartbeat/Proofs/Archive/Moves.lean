import Heartbeat.Archive.Writer
import Heartbeat.Proofs.Lists

/-! The archive's task, one move at a time and in any order. Three things are kept by every move: what was
queued stays queued, buffered or handed to the index, in its order; the counters account for every
document of a bulk call that is over; and a writer that nobody closed or deserted goes on serving, while
one that is past its last batch has nothing left. -/
namespace Heartbeat.Archive

/-- A move of the archive's task. A bulk call that is under way can end in any way at any time. -/
inductive Move where
  | receive
  | tick
  | notice
  | drain
  | conclude (reply : BulkReply)

/-- A reply to a bulk call has no more outcomes than the call has documents. -/
def BulkReply.Fits (size : Nat) : BulkReply → Prop
  | .outcomes list => list.length ≤ size
  | .failed | .silent => True

instance (size : Nat) : (reply : BulkReply) → Decidable (reply.Fits size)
  | .outcomes list => inferInstanceAs (Decidable (list.length ≤ size))
  | .failed | .silent => isTrue trivial

/-- How many documents a reply reports as created. -/
def BulkReply.created : BulkReply → Nat
  | .outcomes list => list.countP Writer.isCreated
  | .failed | .silent => 0

/-- How many documents of a call count as failed: those reported so and those that the reply leaves out. -/
def BulkReply.missed (size : Nat) : BulkReply → Nat
  | .outcomes list => (size - list.length) + list.countP (fun outcome => !Writer.isCreated outcome)
  | .failed | .silent => size

/-- The call failed as a whole, or nobody waited for its end. -/
def BulkReply.isLost : BulkReply → Bool
  | .outcomes _ => false
  | .failed | .silent => true

theorem BulkReply.created_add_missed {size : Nat} {reply : BulkReply} (fits : reply.Fits size) :
    reply.created + reply.missed size = size := by
  cases reply with
  | outcomes list =>
    have split : list.countP Writer.isCreated +
        list.countP (fun outcome => !Writer.isCreated outcome) = list.length := by
      rw [List.length_eq_countP_add_countP Writer.isCreated]
      simp
    simp only [created, missed, BulkReply.Fits] at fits ⊢
    omega
  | failed => simp only [created, missed]; omega
  | silent => simp only [created, missed]; omega

namespace Writer

variable {w w' : Writer} {now : Nat} {item : Item}

theorem account_eq (stats : Stats) (size : Nat) (reply : BulkReply) :
    account stats size reply =
      { stats with
        indexed := stats.indexed + reply.created
        failed := stats.failed + reply.missed size
        failedFlushes := stats.failedFlushes + if reply.isLost then 1 else 0 } := by
  cases reply with
  | outcomes list => simp [account, BulkReply.created, BulkReply.missed, BulkReply.isLost, Nat.add_assoc]
  | failed => rfl
  | silent => rfl

/-- The move is made. One for which the task is not at the right place changes nothing. -/
def perform (w : Writer) (now : Nat) : Move → Writer
  | .receive => w.receive now
  | .tick => w.tick now
  | .notice => w.notice
  | .drain => w.drain now
  | .conclude reply => w.conclude reply

/-- What the task does, or will do when the bulk call under way is late; none if it has ended. -/
def mode? (w : Writer) : Option Mode :=
  match w.phase with
  | .idle mode | .sending _ _ mode => some mode
  | .stopped => none

/-- The task has started its last batch, if there was one to start. -/
def Late (w : Writer) : Prop := w.mode? = some .ending ∨ w.mode? = none

instance (w : Writer) : Decidable w.Late := inferInstanceAs (Decidable (_ ∨ _))

/-- The bulk call that a move ends, with its reply. -/
def ended (w : Writer) : Move → List (List Item × BulkReply)
  | .conclude reply => match w.phase with
    | .sending batch _ _ => [(batch, reply)]
    | _ => []
  | _ => []

/-- The bulk call under way. -/
def underway (w : Writer) : List (List Item) :=
  match w.phase with
  | .sending batch _ _ => [batch]
  | _ => []

/-- How many documents are in the bulk call under way. -/
def inFlight (w : Writer) : Nat :=
  match w.phase with
  | .sending batch _ _ => batch.length
  | _ => 0

/-- The documents of all bulk calls. -/
def sent (w : Writer) : List Item := w.batches.flatten

/-- All documents that were ever queued. -/
def given (w : Writer) : List Item := w.sent ++ w.buffer ++ w.queue

/-- A reply fits the bulk call under way, if that is what the move is. -/
def Fits (w : Writer) : Move → Prop
  | .conclude reply => reply.Fits w.inFlight
  | _ => True

instance (w : Writer) : (move : Move) → Decidable (w.Fits move)
  | .conclude reply => inferInstanceAs (Decidable (reply.Fits w.inFlight))
  | .receive | .tick | .notice | .drain => isTrue trivial

/-- Nobody has closed the writer, and somebody is left who could submit. -/
def Open (w : Writer) : Prop := w.closed = false ∧ w.deserted = false

/-- The invariant of the task. -/
structure Sound (w : Writer) : Prop where
  serving : w.Open → w.mode? = some .serving
  spent : w.Late → w.queue = [] ∧ w.buffer = []

/-- What a move leaves alone. -/
structure Keeps (w w' : Writer) : Prop where
  given : w'.given = w.given
  closed : w'.closed = w.closed
  deserted : w'.deserted = w.deserted
  submitted : w'.stats.submitted = w.stats.submitted

theorem Keeps.refl (w : Writer) : w.Keeps w := ⟨rfl, rfl, rfl, rfl⟩

theorem Keeps.trans {w' w'' : Writer} (first : w.Keeps w') (second : w'.Keeps w'') : w.Keeps w'' :=
  ⟨second.given.trans first.given, second.closed.trans first.closed,
    second.deserted.trans first.deserted, second.submitted.trans first.submitted⟩

/-! ## What a move can come to -/

/-- Everything that a move can come to, with the state it leads to. Later proofs are case analyses over it
and open no operation of the writer again. -/
inductive Moved (w : Writer) (now : Nat) : Move → Writer → Prop where
  /-- It is not the time for this move. -/
  | rests {move : Move} (quiet : w.ended move = []) : Moved w now move w
  /-- The next document is buffered, and the batch is not full yet. -/
  | buffers {move : Move} {mode : Mode} {item : Item} {rest : List Item} (idle : w.phase = .idle mode)
      (taking : mode ≠ .ending) (next : w.queue = item :: rest)
      (room : w.buffer.length + 1 < w.limit) :
      Moved w now move { w with queue := rest, buffer := w.buffer ++ [item] }
  /-- The next document fills the batch, which is sent. -/
  | fills {move : Move} {mode : Mode} {item : Item} {rest : List Item} (idle : w.phase = .idle mode)
      (taking : mode ≠ .ending) (next : w.queue = item :: rest)
      (full : w.limit ≤ w.buffer.length + 1) :
      Moved w now move ({ w with queue := rest, buffer := w.buffer ++ [item] }.flush now mode)
  /-- The timer ticks and nothing is buffered. -/
  | skips (idle : w.phase = .idle .serving) (due : w.nextTick ≤ now) :
      Moved w now .tick { w with nextTick := nextAfterDelay w.nextTick now w.settings.flushInterval }
  /-- The timer ticks, and what is buffered is sent. -/
  | ticks (idle : w.phase = .idle .serving) (due : w.nextTick ≤ now) (some : w.buffer ≠ []) :
      Moved w now .tick
        ({ w with nextTick := nextAfterDelay w.nextTick now w.settings.flushInterval }.flush now .serving)
  /-- Nothing more has to be waited for. -/
  | notices (idle : w.phase = .idle .serving) (shut : w.closed = true ∨ w.deserted = true) :
      Moved w now .notice { w with phase := .idle .draining }
  /-- Nothing is left, not even for a last batch. -/
  | finishes (idle : w.phase = .idle .draining) (drained : w.queue = []) (empty : w.buffer = []) :
      Moved w now .drain { w with phase := .idle .ending }
  /-- Only the last batch is left, and it is sent. -/
  | parts (idle : w.phase = .idle .draining) (drained : w.queue = []) (some : w.buffer ≠ []) :
      Moved w now .drain (w.flush now .ending)
  /-- The task ends, with whatever was queued since it last looked. -/
  | stops (idle : w.phase = .idle .ending) : Moved w now .drain { w with phase := .stopped, queue := [] }
  /-- The bulk call under way is over. -/
  | concludes {batch : List Item} {deadline : Nat} {next : Mode} (reply : BulkReply)
      (sending : w.phase = .sending batch deadline next) :
      Moved w now (.conclude reply)
        { w with phase := .idle next, stats := account w.stats batch.length reply }

theorem moved_take {move : Move} {mode : Mode} {rest : List Item} (idle : w.phase = .idle mode)
    (taking : mode ≠ .ending) (next : w.queue = item :: rest) :
    w.Moved now move (w.take now item rest mode) := by
  have size : (w.buffer ++ [item]).length = w.buffer.length + 1 := List.length_append
  simp only [take, size]
  split
  · rename_i full
    exact .fills idle taking next full
  · rename_i room
    exact .buffers idle taking next (Nat.lt_of_not_le room)

/-- **A move does one of these things.** -/
theorem moved (w : Writer) (now : Nat) (move : Move) : w.Moved now move (w.perform now move) := by
  cases move with
  | receive =>
    simp only [Writer.perform, receive]
    split
    · rename_i idle next
      exact moved_take idle (by decide) next
    · exact .rests rfl
  | tick =>
    simp only [Writer.perform, tick]
    split
    · rename_i due
      split
      · exact .skips due.1 due.2
      · rename_i some
        exact .ticks due.1 due.2 (by simpa using some)
    · exact .rests rfl
  | notice =>
    simp only [Writer.perform, notice]
    split
    · rename_i due
      exact .notices due.1 (due.2.imp_right And.left)
    · exact .rests rfl
  | drain =>
    simp only [Writer.perform, drain]
    split
    · rename_i idle next
      exact moved_take idle (by decide) next
    · rename_i idle drained
      split
      · rename_i empty
        exact .finishes idle drained (List.isEmpty_iff.mp empty)
      · rename_i some
        exact .parts idle drained (by simpa using some)
    · rename_i idle
      exact .stops idle
    · exact .rests rfl
  | conclude reply =>
    simp only [Writer.perform, conclude]
    split
    · rename_i sending
      exact .concludes reply sending
    · rename_i idle
      refine .rests ?_
      simp only [ended]

theorem mode_idle {mode : Mode} (idle : w.phase = .idle mode) : w.mode? = some mode := by
  rw [mode?, idle]

theorem not_late {mode : Mode} (doing : w.mode? = some mode) (taking : mode ≠ .ending) : ¬ w.Late := by
  intro late
  rw [Late, doing] at late
  rcases late with late | late
  · exact taking (Option.some.inj late)
  · cases late

theorem Sound.not_late (sound : w.Sound) (isOpen : w.Open) : ¬ w.Late :=
  Writer.not_late (sound.serving isOpen) (by decide)

/-! ## What every move keeps -/

theorem flush_keeps (mode : Mode) : w.Keeps (w.flush now mode) where
  given := by simp [flush, Writer.given, sent]
  closed := rfl
  deserted := rfl
  submitted := rfl

theorem buffer_keeps {rest : List Item} (next : w.queue = item :: rest) :
    w.Keeps { w with queue := rest, buffer := w.buffer ++ [item] } :=
  ⟨by simp [Writer.given, sent, next], rfl, rfl, rfl⟩

/-- A move loses nothing, unless the task stops while something is queued. -/
theorem Moved.keeps {move : Move} (moved : w.Moved now move w')
    (drained : w.phase = .idle .ending → w.queue = []) :
    w.Keeps w' := by
  cases moved with
  | rests => exact .refl w
  | buffers _ _ next => exact buffer_keeps next
  | @fills _ mode _ _ _ _ next => exact (buffer_keeps next).trans (flush_keeps mode)
  | skips => exact ⟨rfl, rfl, rfl, rfl⟩
  | ticks =>
    have ticked : w.Keeps { w with nextTick := nextAfterDelay w.nextTick now w.settings.flushInterval } :=
      ⟨rfl, rfl, rfl, rfl⟩
    exact ticked.trans (flush_keeps .serving)
  | notices => exact ⟨rfl, rfl, rfl, rfl⟩
  | finishes => exact ⟨rfl, rfl, rfl, rfl⟩
  | parts => exact flush_keeps .ending
  | stops idle => exact ⟨by simp [given, sent, drained idle], rfl, rfl, rfl⟩
  | concludes reply => exact ⟨rfl, rfl, rfl, by rw [account_eq]⟩

/-- A task that serves goes on serving, as long as nobody closes or deserts the writer. -/
theorem Moved.serving {move : Move} (moved : w.Moved now move w') (isOpen : w.Open)
    (serving : w.mode? = some .serving) : w'.Open ∧ w'.mode? = some .serving := by
  cases moved with
  | rests => exact ⟨isOpen, serving⟩
  | buffers => exact ⟨isOpen, serving⟩
  | fills idle => exact ⟨isOpen, (mode_idle idle).symm.trans serving⟩
  | skips => exact ⟨isOpen, serving⟩
  | ticks => exact ⟨isOpen, rfl⟩
  | notices idle shut =>
    rcases shut with closed | deserted
    · exact absurd (isOpen.1.symm.trans closed) (by decide)
    · exact absurd (isOpen.2.symm.trans deserted) (by decide)
  | finishes idle => cases (mode_idle idle).symm.trans serving
  | parts idle => cases (mode_idle idle).symm.trans serving
  | stops idle => cases (mode_idle idle).symm.trans serving
  | concludes _ sending => exact ⟨isOpen, by rwa [mode?, sending] at serving⟩

/-- A task that is late stays late, and sends nothing more. -/
theorem Moved.late {move : Move} (moved : w.Moved now move w') (late : w.Late) :
    w'.Late ∧ w'.batches = w.batches ∧ w'.buffer = w.buffer ∧ (w.queue = [] → w'.queue = []) := by
  cases moved with
  | rests => exact ⟨late, rfl, rfl, id⟩
  | buffers idle taking => exact absurd late (not_late (mode_idle idle) taking)
  | fills idle taking => exact absurd late (not_late (mode_idle idle) taking)
  | skips idle => exact absurd late (not_late (mode_idle idle) (by decide))
  | ticks idle => exact absurd late (not_late (mode_idle idle) (by decide))
  | notices idle => exact absurd late (not_late (mode_idle idle) (by decide))
  | finishes idle => exact absurd late (not_late (mode_idle idle) (by decide))
  | parts idle => exact absurd late (not_late (mode_idle idle) (by decide))
  | stops => exact ⟨.inr rfl, rfl, rfl, fun _ => rfl⟩
  | concludes _ sending => exact ⟨by rwa [Late, mode?, sending] at late, rfl, rfl, id⟩

/-- A task becomes late when everything that was queued is handed to the index. -/
theorem Moved.turns_late {move : Move} (moved : w.Moved now move w') (early : ¬ w.Late)
    (late : w'.Late) :
    w.phase = .idle .draining ∧ w'.queue = [] ∧ w'.buffer = [] := by
  cases moved with
  | rests => exact absurd late early
  | buffers => exact absurd late early
  | fills _ taking => exact absurd late (not_late rfl taking)
  | skips => exact absurd late early
  | ticks => exact absurd late (not_late rfl (by decide))
  | notices => exact absurd late (not_late rfl (by decide))
  | finishes idle drained empty => exact ⟨idle, drained, empty⟩
  | parts idle drained => exact ⟨idle, drained, rfl⟩
  | stops idle => exact absurd (.inl (mode_idle idle)) early
  | concludes _ sending => exact absurd (by rwa [Late, mode?, sending]) early

theorem Moved.shut {move : Move} (moved : w.Moved now move w') :
    w'.closed = w.closed ∧ w'.deserted = w.deserted := by
  cases moved <;> exact ⟨rfl, rfl⟩

theorem shut_of_not_open (barred : ¬ w.Open) : w.closed = true ∨ w.deserted = true := by
  simpa only [Open, not_and_or, Bool.not_eq_false] using barred

/-- A task that has ended moves no more. -/
theorem Moved.stopped {move : Move} (moved : w.Moved now move w') (stopped : w.phase = .stopped) : w' = w := by
  cases moved with
  | rests => rfl
  | buffers idle => cases stopped.symm.trans idle
  | fills idle => cases stopped.symm.trans idle
  | skips idle => cases stopped.symm.trans idle
  | ticks idle => cases stopped.symm.trans idle
  | notices idle => cases stopped.symm.trans idle
  | finishes idle => cases stopped.symm.trans idle
  | parts idle => cases stopped.symm.trans idle
  | stops idle => cases stopped.symm.trans idle
  | concludes _ sending => cases stopped.symm.trans sending

/-- **A move keeps the task sound**, and loses nothing that was queued. -/
theorem Sound.move (sound : w.Sound) (now : Nat) (move : Move) :
    (w.perform now move).Sound ∧ w.Keeps (w.perform now move) := by
  have moved := w.moved now move
  have keeps := moved.keeps fun ending => (sound.spent (.inl (mode_idle ending))).1
  refine ⟨⟨fun isOpen => ?_, fun late => ?_⟩, keeps⟩
  · have wasOpen : w.Open := ⟨keeps.closed.symm.trans isOpen.1, keeps.deserted.symm.trans isOpen.2⟩
    exact (moved.serving wasOpen (sound.serving wasOpen)).2
  · by_cases before : w.Late
    · obtain ⟨-, -, buffer, queue⟩ := moved.late before
      obtain ⟨noQueue, noBuffer⟩ := sound.spent before
      exact ⟨queue noQueue, buffer.trans noBuffer⟩
    · exact (moved.turns_late before late).2

/-! ## The counters -/

/-- The counters account for the documents of all bulk calls, but for those under way. -/
def Accounted (w : Writer) : Prop := w.stats.indexed + w.stats.failed + w.inFlight = w.sent.length

theorem flush_accounted {mode next : Mode} (accounted : w.Accounted) (idle : w.phase = .idle mode) :
    (w.flush now next).Accounted := by
  simp only [Accounted, inFlight, idle] at accounted
  simp only [Accounted, flush, inFlight, sent, List.flatten_append, List.length_append,
    List.flatten_singleton]
  simp only [sent] at accounted
  omega

/-- A task that is not sending has the same account whatever else it does. -/
theorem Accounted.turn {mode : Mode} {phase : Phase} {queue : List Item} (accounted : w.Accounted)
    (idle : w.phase = .idle mode) (still : ∀ batch deadline next, phase ≠ .sending batch deadline next) :
    { w with phase, queue }.Accounted := by
  simp only [Accounted, inFlight, sent, idle] at accounted ⊢
  cases phase with
  | sending batch deadline next => exact absurd rfl (still batch deadline next)
  | idle => exact accounted
  | stopped => exact accounted

/-- Moves count every document once, as long as replies fit. -/
theorem Accounted.perform (accounted : w.Accounted) (now : Nat) {move : Move} (fits : w.Fits move) :
    (w.perform now move).Accounted := by
  have result := w.moved now move
  generalize w.perform now move = w' at result
  cases result with
  | rests => exact accounted
  | buffers => exact accounted
  | fills idle _ next => exact flush_accounted (w := { w with queue := _, buffer := _ }) accounted idle
  | skips => exact accounted
  | ticks idle => exact flush_accounted (w := { w with nextTick := _ }) accounted idle
  | notices idle => exact accounted.turn idle nofun
  | finishes idle => exact accounted.turn idle nofun
  | parts idle => exact flush_accounted accounted idle
  | stops idle => exact accounted.turn idle nofun
  | concludes reply sending =>
    simp only [Accounted, inFlight, sending, Fits, sent] at accounted fits ⊢
    have every := BulkReply.created_add_missed fits
    rw [account_eq]
    simp only
    omega

/-! ## Submitting -/

/-- A document can be queued as long as the task has not ended, and goes behind all others. -/
theorem enqueue_cases (w : Writer) (item : Item) :
    (w.enqueue? item = none ∧ w.mode? = none) ∨
      w.enqueue? item = some { w with queue := w.queue ++ [item] } := by
  unfold enqueue?
  split
  · rename_i stopped
    exact .inl ⟨rfl, by rw [mode?, stopped]⟩
  · exact .inr rfl

theorem enqueue_eq_none_iff (w : Writer) (item : Item) : w.enqueue? item = none ↔ w.phase = .stopped := by
  unfold enqueue?
  split <;> simp [*]

theorem Sound.enqueue (sound : w.Sound) (isOpen : w.Open) (item : Item) :
    { w with queue := w.queue ++ [item] }.Sound where
  serving := sound.serving
  spent late := absurd late (sound.not_late isOpen)

theorem given_enqueue (item : Item) : { w with queue := w.queue ++ [item] }.given = w.given ++ [item] := by
  simp [given, sent]

theorem sound_start (settings : Settings) (now : Nat) :
    (start settings now).Sound ∧ (start settings now).Accounted :=
  ⟨⟨fun _ => rfl, fun late => absurd late (not_late rfl (by decide))⟩, rfl⟩

end Writer
end Heartbeat.Archive
