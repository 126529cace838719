import Heartbeat.Proofs.Archive.Counters

/-! Submissions to the archive. A submission queues its document and then counts it, and anything can happen
before, between and after. It is accepted as long as the task has not ended, but what becomes of its document
is settled by another moment: the task looks into the queue for the last time before it sends the last batch
and ends, and what is queued later is accepted and never sent. -/
namespace Heartbeat.Archive

/-- How far a submission has come. Its document is late if it was queued when the task had looked into the
queue for the last time. -/
inductive Progress where
  | offered
  | queued (late : Bool)
  | accepted (late : Bool)
  | refused
  deriving DecidableEq, Repr

structure Submission where
  item : Item
  progress : Progress := .offered
  deriving DecidableEq, Repr

namespace Submission

/-- The submission has returned. -/
def isOver (s : Submission) : Bool :=
  match s.progress with
  | .accepted _ | .refused => true
  | .offered | .queued _ => false

/-- The document, if it was queued in time or if it was queued late. -/
def document? (late : Bool) (s : Submission) : Option Item :=
  match s.progress with
  | .queued when_ | .accepted when_ => if when_ = late then some s.item else none
  | .offered | .refused => none

/-- The document, if it is queued but not counted. -/
def uncounted? (s : Submission) : Option Item :=
  match s.progress with
  | .queued _ => some s.item
  | .offered | .accepted _ | .refused => none

end Submission

/-- A writer with its books and the submissions that were begun, in the order of their beginnings. -/
structure Desk where
  ledger : Ledger
  submissions : List Submission := []

/-- Something that happens at a desk. -/
inductive Act where
  /-- Somebody begins to submit a document. -/
  | offer (item : Item)
  /-- The submission of the given number goes on. -/
  | proceed (i : Nat)
  | close
  /-- The last one who could submit goes. -/
  | desert
  | move (now : Nat) (move : Move)

/-- No move of the task counts a submission. -/
theorem Writer.Moved.submitted {w w' : Writer} {now : Nat} {move : Move} (moved : w.Moved now move w') :
    w'.stats.submitted = w.stats.submitted := by
  cases moved with
  | concludes reply => rw [account_eq]
  | _ => rfl

namespace Desk

def start (settings : Settings) (now : Nat) : Desk := { ledger := .start settings now }

def writer (d : Desk) : Writer := d.ledger.writer

/-- The documents that were queued in time, or late, by submissions that are over or have only to count. -/
def filed (d : Desk) (late : Bool) : List Item := d.submissions.filterMap (·.document? late)

def uncounted (d : Desk) : List Item := d.submissions.filterMap Submission.uncounted?

/-- The next step of a submission. -/
def proceed (d : Desk) (i : Nat) : Desk :=
  match d.submissions[i]? with
  | some ⟨item, .offered⟩ =>
    match d.writer.enqueue? item with
    | some _ =>
      { ledger := d.ledger.enqueue item
        submissions := d.submissions.set i ⟨item, .queued (decide d.writer.Late)⟩ }
    | none => { d with submissions := d.submissions.set i ⟨item, .refused⟩ }
  | some ⟨item, .queued late⟩ =>
    { ledger := d.ledger.after .count, submissions := d.submissions.set i ⟨item, .accepted late⟩ }
  | some ⟨_, .accepted _⟩ | some ⟨_, .refused⟩ | none => d

/-- What is left when the act is done. Whoever has still to submit keeps the desk from being deserted, and
nobody comes to one that is. -/
def after (d : Desk) : Act → Desk
  | .offer item => if d.writer.deserted then d else { d with submissions := d.submissions ++ [{ item }] }
  | .proceed i => d.proceed i
  | .close => { d with ledger := d.ledger.after .close }
  | .desert => if d.submissions.all Submission.isOver then { d with ledger := d.ledger.after .desert } else d
  | .move now move => { d with ledger := d.ledger.after (.move now move) }

def run (d : Desk) (acts : List Act) : Desk := acts.foldl after d

/-- What holds at first and is kept by every act holds throughout. -/
theorem run_induction {d : Desk} {motive : Desk → Prop} (base : motive d)
    (step : ∀ d act, motive d → motive (d.after act)) (acts : List Act) : motive (d.run acts) := by
  induction acts generalizing d with
  | nil => exact base
  | cons act acts ih => exact ih (step d act base)

variable {d : Desk} {item : Item} {i : Nat} {late : Bool}

/-! ## The ledger of a desk

A desk is a ledger and the submissions that write to it: whatever is done at the desk is an event of the ledger
or none. -/

/-- What an act is for the ledger. -/
def events (d : Desk) : Act → List Event
  | .offer _ => []
  | .proceed i =>
    match d.submissions[i]? with
    | some ⟨item, .offered⟩ => [.enqueue item]
    | some ⟨_, .queued _⟩ => [.count]
    | _ => []
  | .close => [.close]
  | .desert => if d.submissions.all Submission.isOver then [.desert] else []
  | .move now move => [.move now move]

/-- Whoever could still submit has not gone. -/
def Attended (d : Desk) : Prop := d.writer.deserted = true → d.submissions.all Submission.isOver = true

theorem Attended.present (attended : d.Attended) {s : Submission} (member : s ∈ d.submissions)
    (unfinished : s.isOver = false) : d.writer.deserted = false := by
  refine Bool.eq_false_iff.mpr fun deserted => ?_
  have returned := List.all_eq_true.mp (attended deserted) s member
  cases unfinished.symm.trans returned

/-- A document is queued unless the task has ended. -/
theorem proceed_offered (here : d.submissions[i]? = some ⟨item, .offered⟩) :
    (d.writer.phase = .stopped ∧
      d.proceed i = { d with submissions := d.submissions.set i ⟨item, .refused⟩ }) ∨
    d.writer.phase ≠ .stopped ∧ d.proceed i =
      ⟨d.ledger.booked item, d.submissions.set i ⟨item, .queued (decide d.writer.Late)⟩⟩ := by
  simp only [proceed, here, Ledger.enqueue_eq, Writer.enqueue?, writer]
  by_cases stopped : d.ledger.writer.phase = .stopped
  · exact .inl ⟨stopped, by simp only [stopped, if_true]⟩
  · exact .inr ⟨stopped, by simp only [stopped, if_false]⟩

theorem proceed_queued (here : d.submissions[i]? = some ⟨item, .queued late⟩) :
    d.proceed i = ⟨d.ledger.after .count, d.submissions.set i ⟨item, .accepted late⟩⟩ := by
  simp only [proceed, here]

/-- **An act is what the ledger makes of its events.** -/
theorem ledger_after (attended : d.Attended) (act : Act) :
    (d.after act).ledger = d.ledger.run (d.events act) := by
  cases act with
  | offer item =>
    simp only [after]
    split <;> rfl
  | proceed i =>
    simp only [after, events]
    split
    · rename_i item here
      have present : d.writer.deserted = false := attended.present (List.mem_of_getElem? here) rfl
      have queued : d.ledger.run [.enqueue item] = d.ledger.enqueue item :=
        if_neg (Bool.eq_false_iff.mp present)
      rw [queued, Ledger.enqueue_eq]
      rcases proceed_offered here with ⟨stopped, eq⟩ | ⟨running, eq⟩
      · rw [eq, if_pos (show d.ledger.writer.phase = _ from stopped)]
      · rw [eq, if_neg (show d.ledger.writer.phase ≠ _ from running)]
    · rename_i item late here
      rw [proceed_queued here]
      rfl
    · rename_i other settled
      unfold proceed
      split
      · rename_i item here
        exact absurd here (other item)
      · rename_i item late here
        exact absurd here (settled item late)
      · rfl
      · rfl
      · rfl
  | close => rfl
  | desert =>
    simp only [after, events]
    split <;> rfl
  | move => rfl

/-! ## What an act comes to -/

/-- Everything that an act can come to. -/
inductive Happened (d : Desk) : Act → Desk → Prop where
  /-- Nobody is there to do it. -/
  | rests {act : Act} : Happened d act d
  | offers (item : Item) (attended : d.writer.deserted = false) :
      Happened d (.offer item) { d with submissions := d.submissions ++ [{ item }] }
  | queues {i : Nat} {item : Item} {late : Bool} (here : d.submissions[i]? = some ⟨item, .offered⟩)
      (moment : decide d.writer.Late = late) :
      Happened d (.proceed i) ⟨d.ledger.booked item, d.submissions.set i ⟨item, .queued late⟩⟩
  | refuses {i : Nat} {item : Item} (here : d.submissions[i]? = some ⟨item, .offered⟩) :
      Happened d (.proceed i) { d with submissions := d.submissions.set i ⟨item, .refused⟩ }
  | counts {i : Nat} {item : Item} {late : Bool}
      (here : d.submissions[i]? = some ⟨item, .queued late⟩) :
      Happened d (.proceed i) ⟨d.ledger.after .count, d.submissions.set i ⟨item, .accepted late⟩⟩
  | closes : Happened d .close { d with ledger := d.ledger.after .close }
  | deserts (done : d.submissions.all Submission.isOver = true) :
      Happened d .desert { d with ledger := d.ledger.after .desert }
  | moves {now : Nat} {move : Move} {w : Writer} (moved : d.writer.Moved now move w) :
      Happened d (.move now move)
        { d with ledger := { d.ledger with
          writer := w, calls := d.ledger.calls ++ d.writer.ended move } }

theorem happened (d : Desk) (act : Act) : d.Happened act (d.after act) := by
  cases act with
  | offer item =>
    simp only [after]
    split
    · exact .rests
    · rename_i attended
      exact .offers item (by simpa using attended)
  | proceed i =>
    simp only [after]
    cases here : d.submissions[i]? with
    | none =>
      simp only [proceed, here]
      exact .rests
    | some submission =>
      obtain ⟨item, progress⟩ := submission
      cases progress with
      | offered =>
        rcases proceed_offered here with ⟨-, eq⟩ | ⟨-, eq⟩
        · exact eq ▸ .refuses here
        · exact eq ▸ .queues here rfl
      | queued late => exact proceed_queued here ▸ .counts here
      | accepted late =>
        simp only [proceed, here]
        exact .rests
      | refused =>
        simp only [proceed, here]
        exact .rests
  | close => exact .closes
  | desert =>
    simp only [after]
    split
    · rename_i done
      exact .deserts done
    · exact .rests
  | move now move => exact .moves (d.writer.moved now move)

/-- A submission that has come to its end stays there. -/
theorem all_over_set {old new : Submission} (done : d.submissions.all Submission.isOver = true)
    (here : d.submissions[i]? = some old) (unfinished : old.isOver = false) :
    (d.submissions.set i new).all Submission.isOver = true := by
  have returned := List.all_eq_true.mp done old (List.mem_of_getElem? here)
  cases unfinished.symm.trans returned

theorem Attended.after (attended : d.Attended) (act : Act) : (d.after act).Attended := by
  have happened := d.happened act
  generalize d.after act = d' at happened ⊢
  cases happened with
  | rests => exact attended
  | offers item present => exact fun deserted => by cases present.symm.trans deserted
  | queues here => exact fun deserted => all_over_set (attended deserted) here rfl
  | refuses here => exact fun deserted => all_over_set (attended deserted) here rfl
  | counts here => exact fun deserted => all_over_set (attended deserted) here rfl
  | closes => exact attended
  | deserts done => exact fun _ => done
  | moves moved => exact fun deserted => attended (moved.shut.2 ▸ deserted)

/-! ## The documents and the counters -/

/-- What the submissions have filed is what the ledger knows: what was queued in time, what was queued at all, and
what was counted. -/
structure Filed (d : Desk) : Prop where
  timely : d.ledger.timely.Perm (d.filed false)
  entered : d.ledger.entered.length = (d.filed false).length + (d.filed true).length
  counted : d.ledger.entered.length = d.writer.stats.submitted + d.uncounted.length

/-- A submission that is replaced takes with it what it has filed, and files what it has. -/
theorem filed_set {old : Submission} (new : Submission) (here : d.submissions[i]? = some old)
    (ledger : Ledger) (late : Bool) :
    ((old.document? late).toList ++ (Desk.mk ledger (d.submissions.set i new)).filed late).Perm
      ((new.document? late).toList ++ d.filed late) :=
  filterMap_set_perm new here

theorem uncounted_set {old : Submission} (new : Submission) (here : d.submissions[i]? = some old)
    (ledger : Ledger) :
    (old.uncounted?.toList ++ (Desk.mk ledger (d.submissions.set i new)).uncounted).Perm
      (new.uncounted?.toList ++ d.uncounted) :=
  filterMap_set_perm new here

/-- A document is queued, in time or late. -/
theorem Filed.queue (filed : d.Filed) (here : d.submissions[i]? = some ⟨item, .offered⟩)
    (moment : decide d.writer.Late = late) :
    Filed ⟨d.ledger.booked item, d.submissions.set i ⟨item, .queued late⟩⟩ := by
  have places := filed_set ⟨item, .queued late⟩ here (d.ledger.booked item)
  have uncounted := (uncounted_set ⟨item, .queued late⟩ here (d.ledger.booked item)).length_eq
  have inTime := places false
  have tooLate := places true
  have timely := filed.timely
  have entered := filed.entered
  have counted := filed.counted
  have grown : (d.ledger.booked item).entered.length = d.ledger.entered.length + 1 := List.length_append
  simp only [Submission.document?, Submission.uncounted?, Option.toList_none, Option.toList_some,
    List.nil_append, List.length_append, List.length_singleton] at inTime tooLate uncounted
  have lengths := inTime.length_eq
  have lates := tooLate.length_eq
  refine ⟨?_, ?_, ?_⟩
  · show (if d.writer.Late then d.ledger.timely else d.ledger.timely ++ [item]).Perm _
    cases late with
    | false =>
      rw [if_neg (of_decide_eq_false moment)]
      exact (timely.append_right _).trans ((List.perm_append_singleton item _).trans inTime.symm)
    | true =>
      rw [if_pos (of_decide_eq_true moment)]
      exact timely.trans inTime.symm
  · show (d.ledger.booked item).entered.length = _
    rw [grown, entered]
    cases late <;> simp at lengths lates <;> omega
  · show (d.ledger.booked item).entered.length = d.writer.stats.submitted + _
    rw [grown, counted]
    omega

/-- A submission goes on without queueing anything. -/
theorem Filed.turn (filed : d.Filed) {old : Submission} (here : d.submissions[i]? = some old)
    (new : Submission) (same : ∀ late, new.document? late = old.document? late) (w : Writer)
    (counted : w.stats.submitted + new.uncounted?.toList.length =
      d.writer.stats.submitted + old.uncounted?.toList.length) :
    Filed ⟨{ d.ledger with writer := w }, d.submissions.set i new⟩ := by
  have places (late : Bool) :
      (Desk.mk { d.ledger with writer := w } (d.submissions.set i new)).filed late |>.Perm (d.filed late) := by
    have moved := filed_set new here { d.ledger with writer := w } late
    rwa [same, List.perm_append_left_iff] at moved
  have uncounted := (uncounted_set new here { d.ledger with writer := w }).length_eq
  refine ⟨filed.timely.trans (places false).symm, ?_, ?_⟩
  · rw [(places false).length_eq, (places true).length_eq]
    exact filed.entered
  · have before := filed.counted
    rw [List.length_append, List.length_append] at uncounted
    show d.ledger.entered.length = w.stats.submitted + _
    omega

/-- **Every act keeps what was filed and what was counted.** -/
theorem Filed.after (filed : d.Filed) (act : Act) : (d.after act).Filed := by
  have happened := d.happened act
  generalize d.after act = d' at happened ⊢
  cases happened with
  | rests => exact filed
  | offers item =>
    have places (late : Bool) :
        ({ d with submissions := d.submissions ++ [{ item }] } : Desk).filed late = d.filed late := by
      simp [Desk.filed, Submission.document?]
    have uncounted : ({ d with submissions := d.submissions ++ [{ item }] } : Desk).uncounted = d.uncounted := by
      simp [Desk.uncounted, Submission.uncounted?]
    refine ⟨?_, ?_, ?_⟩
    · rw [places]
      exact filed.timely
    · rw [places, places]
      exact filed.entered
    · rw [uncounted]
      exact filed.counted
  | queues here moment => exact filed.queue here moment
  | @refuses i item here => exact filed.turn here ⟨item, .refused⟩ (fun _ => rfl) d.writer rfl
  | @counts i item late here =>
    exact filed.turn here ⟨item, .accepted late⟩ (fun _ => rfl) d.writer.count rfl
  | closes => exact ⟨filed.timely, filed.entered, filed.counted⟩
  | deserts => exact ⟨filed.timely, filed.entered, filed.counted⟩
  | @moves now move w moved =>
    refine ⟨filed.timely, filed.entered, ?_⟩
    show d.ledger.entered.length = w.stats.submitted + d.uncounted.length
    rw [moved.submitted]
    exact filed.counted

/-- What holds of a desk throughout a run: its ledger is in order, and so is what the submissions say of it. -/
structure Sound (d : Desk) : Prop where
  ledger : d.ledger.Sound
  balanced : d.ledger.Balanced
  attended : d.Attended
  filed : d.Filed

/-- **Every act keeps the desk in order.** -/
theorem Sound.after (sound : d.Sound) (act : Act) : (d.after act).Sound := by
  have same := ledger_after sound.attended act
  refine ⟨?_, ?_, sound.attended.after act, sound.filed.after act⟩
  · rw [same]
    exact Ledger.run_induction sound.ledger (fun _ event sound => sound.after event) _
  · rw [same]
    exact Ledger.run_induction sound.balanced (fun _ event balanced => balanced.after event) _

theorem sound_run (settings : Settings) (time : Nat) (acts : List Act) :
    ((start settings time).run acts).Sound :=
  run_induction ⟨Ledger.sound_start settings time, ⟨rfl, rfl, rfl, rfl, rfl⟩, fun _ => rfl, .refl _, rfl, rfl⟩
    (fun _ act sound => sound.after act) acts

/-- Once the task is late, what was sent is what was queued in time. -/
theorem Sound.spent (sound : d.Sound) (late : d.writer.Late) : d.writer.sent.Perm (d.filed false) := by
  have spent : d.writer.sent = d.ledger.timely := sound.ledger.spent late
  rw [spent]
  exact sound.filed.timely

/-! ## When the task has ended -/

/-- The counters once the task has ended. -/
theorem Sound.total (sound : d.Sound) (stopped : d.writer.phase = .stopped)
    (fits : ∀ call ∈ d.ledger.calls, call.2.Fits call.1.length) :
    d.writer.stats.submitted + d.uncounted.length =
      d.writer.stats.indexed + d.writer.stats.failed + (d.filed true).length := by
  have sent : d.writer.sent.Perm (d.filed false) :=
    sound.spent (.inr (by rw [Writer.mode?, stopped]))
  have quiet : d.writer.underway = [] := by rw [Writer.underway, stopped]
  have called : d.writer.batches = d.ledger.calls.map Prod.fst := by
    have called : d.writer.batches = d.ledger.calls.map Prod.fst ++ d.writer.underway :=
      sound.balanced.called
    rw [called, quiet, List.append_nil]
  have total : d.writer.stats.indexed + d.writer.stats.failed = (d.filed false).length := by
    calc d.writer.stats.indexed + d.writer.stats.failed
      _ = (d.ledger.calls.map Prod.fst).flatten.length := (sound.balanced.total fits).2
      _ = d.writer.sent.length := by rw [Writer.sent, called]
      _ = (d.filed false).length := sent.length_eq
  rw [total]
  exact sound.filed.counted.symm.trans sound.filed.entered

/-- When all submissions have returned, all are counted, and the late ones are those that were accepted late. -/
theorem returned (done : d.submissions.all Submission.isOver = true) :
    d.uncounted = [] ∧ (d.filed true = [] ↔ ∀ s ∈ d.submissions, s.progress ≠ .accepted true) := by
  have each (s : Submission) (member : s ∈ d.submissions) :
      s.uncounted? = none ∧ (s.document? true = none ↔ s.progress ≠ .accepted true) := by
    have returned := List.all_eq_true.mp done s member
    obtain ⟨item, progress⟩ := s
    cases progress with
    | accepted late => cases late <;> simp [Submission.uncounted?, Submission.document?]
    | refused => simp [Submission.uncounted?, Submission.document?]
    | offered => cases returned
    | queued => cases returned
  refine ⟨List.filterMap_eq_nil_iff.mpr fun s member => (each s member).1, ?_⟩
  rw [filed, List.filterMap_eq_nil_iff]
  exact forall₂_congr fun s member => (each s member).2

end Desk
end Heartbeat.Archive
