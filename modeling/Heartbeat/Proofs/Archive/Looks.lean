import Heartbeat.Api
import Heartbeat.Archive.Snapshot
import Heartbeat.Proofs.Archive.Acceptance

/-! Looks at the archive's counters while it is in use. A look reads one counter after another, and what
happens between two reads shows in the later one only; a submission queues its document before it counts it.
So the counters that are found need not fit together. How far they can be apart is settled by what was not
counted when the look began and by what came to the desk while it lasted. -/
namespace Heartbeat.Archive

/-- A look at the counters of a desk, with the desk as it was at each of its reads, oldest first. -/
structure Glance where
  look : Look := {}
  desks : List Desk := []

/-- A desk with all the looks that were begun at its counters, in the order of their beginnings. -/
structure Office where
  desk : Desk
  glances : List Glance := []

/-- Something that happens in an office. -/
inductive Deed where
  | act (act : Act)
  /-- Somebody begins a look, and reads the first counter. -/
  | glance
  /-- The look of the given number reads its next counter. -/
  | read (i : Nat)

/-- The next counter is read, unless none is left. -/
def Glance.read (d : Desk) (g : Glance) : Glance :=
  if g.look.isOver then g else ⟨g.look.step d.writer.stats, g.desks ++ [d]⟩

/-! ## What only grows -/

/-- From one moment at a desk to another, no counter goes back and no call is forgotten. -/
structure Desk.Passed (before now : Desk) : Prop where
  counters : ∀ counter : Counter, counter.get before.writer.stats ≤ counter.get now.writer.stats
  calls : before.ledger.calls <+: now.ledger.calls

namespace Desk

variable {d d' : Desk}

theorem Passed.refl (d : Desk) : d.Passed d := ⟨fun _ => Nat.le_refl _, List.prefix_rfl⟩

theorem Passed.trans {d'' : Desk} (first : d.Passed d') (second : d'.Passed d'') : d.Passed d'' :=
  ⟨fun counter => Nat.le_trans (first.counters counter) (second.counters counter),
    first.calls.trans second.calls⟩

end Desk

/-- No move of the task takes back what was counted. -/
theorem Writer.Moved.counters {w w' : Writer} {now : Nat} {move : Move} (moved : w.Moved now move w')
    (counter : Counter) : counter.get w.stats ≤ counter.get w'.stats := by
  cases moved with
  | rests => exact Nat.le_refl _
  | buffers => exact Nat.le_refl _
  | fills => cases counter <;> simp [Counter.get, flush]
  | skips => exact Nat.le_refl _
  | ticks => cases counter <;> simp [Counter.get, flush]
  | notices => exact Nat.le_refl _
  | finishes => exact Nat.le_refl _
  | parts => cases counter <;> simp [Counter.get, flush]
  | stops => exact Nat.le_refl _
  | concludes reply =>
    rw [account_eq]
    cases counter <;> simp [Counter.get]

namespace Desk

variable {d : Desk}

/-- **No act takes back what was counted.** -/
theorem passed_after (d : Desk) (act : Act) : d.Passed (d.after act) := by
  have happened := d.happened act
  generalize d.after act = d' at happened
  cases happened with
  | rests => exact .refl d
  | offers => exact ⟨fun _ => Nat.le_refl _, List.prefix_rfl⟩
  | queues => exact ⟨fun _ => Nat.le_refl _, List.prefix_rfl⟩
  | refuses => exact ⟨fun _ => Nat.le_refl _, List.prefix_rfl⟩
  | counts =>
    refine ⟨fun counter => ?_, List.prefix_rfl⟩
    cases counter <;> simp [Counter.get, Ledger.after, Writer.count, writer]
  | closes => exact ⟨fun _ => Nat.le_refl _, List.prefix_rfl⟩
  | deserts => exact ⟨fun _ => Nat.le_refl _, List.prefix_rfl⟩
  | moves moved => exact ⟨moved.counters, List.prefix_append _ _⟩

/-- What was sent had been queued. -/
theorem Sound.sent_le (sound : d.Sound) :
    d.writer.sent.length ≤ d.writer.stats.submitted + d.uncounted.length := by
  rw [← sound.filed.counted]
  exact sound.ledger.sent_prefix.length_le

/-- What the counters say at any moment. -/
theorem Sound.counters (sound : d.Sound)
    (fits : ∀ call ∈ d.ledger.calls, call.2.Fits call.1.length) :
    d.writer.stats.failedFlushes ≤ d.writer.stats.flushes ∧
      d.writer.stats.indexed + d.writer.stats.failed ≤
        d.writer.stats.submitted + d.uncounted.length := by
  have called : d.writer.batches = d.ledger.calls.map Prod.fst ++ d.writer.underway :=
    sound.balanced.called
  constructor
  · calc d.writer.stats.failedFlushes
      _ ≤ d.ledger.calls.length := sound.balanced.lost ▸ List.countP_le_length
      _ ≤ d.writer.batches.length := by
        rw [called, List.length_append, List.length_map]
        exact Nat.le_add_right _ _
      _ = d.writer.stats.flushes := sound.balanced.flushes.symm
  · calc d.writer.stats.indexed + d.writer.stats.failed
      _ = (d.ledger.calls.map Prod.fst).flatten.length := (sound.balanced.total fits).2
      _ ≤ d.writer.sent.length := by
        rw [Writer.sent, called, List.flatten_append, List.length_append]
        exact Nat.le_add_right _ _
      _ ≤ d.writer.stats.submitted + d.uncounted.length := sound.sent_le

end Desk

/-! ## Looks -/

namespace Glance

variable {g : Glance} {d d' : Desk}

/-- The look has found what was there when it read, and its desks are those of the office, one after another. -/
structure Sound (g : Glance) (d : Desk) : Prop where
  told : g.look = Look.throughout (g.desks.map (·.writer.stats))
  size : g.desks.length + g.look.ahead.length = Counter.all.length
  ordered : g.desks.Pairwise Desk.Passed
  passed : ∀ e ∈ g.desks, e.Passed d
  sound : ∀ e ∈ g.desks, e.Sound

theorem sound_new (d : Desk) : ({} : Glance).Sound d :=
  ⟨rfl, rfl, .nil, by rintro _ ⟨⟩, by rintro _ ⟨⟩⟩

theorem Sound.read (kept : g.Sound d) (sound : d.Sound) : (g.read d).Sound d := by
  unfold Glance.read
  split
  · exact kept
  · rename_i unfinished
    obtain ⟨next, ahead, more⟩ : ∃ next ahead, g.look.ahead = next :: ahead :=
      List.exists_cons_of_ne_nil fun done => unfinished (by rw [Look.isOver, done]; rfl)
    refine ⟨?_, ?_, ?_, fun e member => ?_, fun e member => ?_⟩
    · rw [kept.told, List.map_append, Look.throughout, Look.throughout, List.foldl_append]
      rfl
    · have size := kept.size
      simp only [more, List.length_cons, Look.step, List.length_append, List.length_nil] at size ⊢
      omega
    · exact List.pairwise_append.mpr ⟨kept.ordered, List.pairwise_singleton _ _,
        fun e member e' last => List.mem_singleton.mp last ▸ kept.passed e member⟩
    · rcases List.mem_append.mp member with old | new
      · exact kept.passed e old
      · exact List.mem_singleton.mp new ▸ .refl d
    · rcases List.mem_append.mp member with old | new
      · exact kept.sound e old
      · exact List.mem_singleton.mp new ▸ sound

/-- Something happens at the desk. -/
theorem Sound.later (kept : g.Sound d) (passed : d.Passed d') : g.Sound d' :=
  { kept with passed := fun e member => (kept.passed e member).trans passed }

/-- A look that is over has read five counters, one at each of its desks. -/
theorem Sound.finished (kept : g.Sound d) (done : g.look.isOver = true) :
    ∃ d₀ d₁ d₂ d₃ d₄, g.desks = [d₀, d₁, d₂, d₃, d₄] ∧
      g.look.found = ⟨d₀.writer.stats.submitted, d₁.writer.stats.indexed, d₂.writer.stats.failed,
        d₃.writer.stats.flushes, d₄.writer.stats.failedFlushes⟩ := by
  have size := kept.size
  have told := kept.told
  rw [List.isEmpty_iff.mp done] at size
  obtain ⟨d₀, d₁, d₂, d₃, d₄, desks⟩ : ∃ d₀ d₁ d₂ d₃ d₄, g.desks = [d₀, d₁, d₂, d₃, d₄] := by
    match g.desks, size with
    | [d₀, d₁, d₂, d₃, d₄], _ => exact ⟨d₀, d₁, d₂, d₃, d₄, rfl⟩
  refine ⟨d₀, d₁, d₂, d₃, d₄, desks, ?_⟩
  rw [told, desks]
  rfl

end Glance

namespace Office

variable {o : Office}

def start (settings : Settings) (now : Nat) : Office := { desk := .start settings now }

/-- What is left when the deed is done. -/
def after (o : Office) : Deed → Office
  | .act act => { o with desk := o.desk.after act }
  | .glance => { o with glances := o.glances ++ [({} : Glance).read o.desk] }
  | .read i => { o with glances := o.glances.modify i (·.read o.desk) }

def run (o : Office) (deeds : List Deed) : Office := deeds.foldl after o

/-- The desk is in order, and so is what was seen of it. -/
structure Sound (o : Office) : Prop where
  desk : o.desk.Sound
  glances : ∀ g ∈ o.glances, g.Sound o.desk

theorem Sound.after (sound : o.Sound) (deed : Deed) : (o.after deed).Sound := by
  cases deed with
  | act act =>
    exact ⟨sound.desk.after act, fun g member => (sound.glances g member).later (o.desk.passed_after act)⟩
  | glance =>
    refine ⟨sound.desk, fun g member => ?_⟩
    rcases List.mem_append.mp member with old | new
    · exact sound.glances g old
    · rw [List.mem_singleton.mp new]
      exact (Glance.sound_new o.desk).read sound.desk
  | read i =>
    refine ⟨sound.desk, fun g member => ?_⟩
    obtain ⟨j, here⟩ := List.mem_iff_getElem?.mp member
    rw [Office.after, List.getElem?_modify] at here
    obtain ⟨old, there, rfl⟩ := Option.map_eq_some_iff.mp here
    have kept := sound.glances old (List.mem_of_getElem? there)
    split
    · exact kept.read sound.desk
    · exact kept

theorem sound_run (settings : Settings) (time : Nat) (deeds : List Deed) :
    ((start settings time).run deeds).Sound := by
  have base : (start settings time).Sound :=
    ⟨Desk.sound_run settings time [], by rintro _ ⟨⟩⟩
  generalize start settings time = o at base
  induction deeds generalizing o with
  | nil => exact base
  | cons deed deeds ih => exact ih (o.after deed) (base.after deed)

/-- **Counters that are published contradict each other only by what is on its way.** At any moment no more calls
have failed than were made, and no more documents are settled than were counted as submitted or have still to be
counted. A look finds each counter as it was when it was read. What it finds settled exceeds what it finds
submitted at most by the documents that were queued and not counted at its first read and those that were queued
until it read what had failed; and the calls it finds failed exceed those it finds made at most by the calls that
were made between these two reads. -/
theorem looks_are_apart_by_what_came {settings : Settings} {time : Nat} {deeds : List Deed} {o : Office}
    (lived : (start settings time).run deeds = o)
    (fits : ∀ call ∈ o.desk.ledger.calls, call.2.Fits call.1.length) :
    o.desk.writer.stats.failedFlushes ≤ o.desk.writer.stats.flushes ∧
    o.desk.writer.stats.indexed + o.desk.writer.stats.failed ≤
      o.desk.writer.stats.submitted + o.desk.uncounted.length ∧
    (∀ g ∈ o.glances, g.look.isOver = true →
      ∃ d₀ d₁ d₂ d₃ d₄, g.desks = [d₀, d₁, d₂, d₃, d₄] ∧
        g.look.found = ⟨d₀.writer.stats.submitted, d₁.writer.stats.indexed, d₂.writer.stats.failed,
          d₃.writer.stats.flushes, d₄.writer.stats.failedFlushes⟩ ∧
        g.look.found.indexed + g.look.found.failed ≤ g.look.found.submitted + d₀.uncounted.length +
          (d₂.ledger.entered.length - d₀.ledger.entered.length) ∧
        g.look.found.failedFlushes ≤ g.look.found.flushes +
          (d₄.writer.stats.flushes - d₃.writer.stats.flushes)) ∧
    ∀ s : Services, s.archive = o.desk.writer → o.desk.uncounted = [] →
      ∃ stats, Api.showRoute .archiveStats s = (.ok (Api.statsJson stats), s) ∧
        stats.failedFlushes ≤ stats.flushes ∧ stats.indexed + stats.failed ≤ stats.submitted := by
  have sound : o.Sound := lived ▸ sound_run settings time deeds
  obtain ⟨lost, settled⟩ := sound.desk.counters fits
  refine ⟨lost, settled, fun g member done => ?_, fun s here counted => ?_⟩
  · have kept := sound.glances g member
    obtain ⟨d₀, d₁, d₂, d₃, d₄, desks, found⟩ := kept.finished done
    have counters (d : Desk) (mem : d ∈ g.desks) :=
      (kept.sound d mem).counters fun call mem' => fits call ((kept.passed d mem).calls.subset mem')
    have ordered := kept.ordered
    rw [desks] at counters ordered
    simp only [List.pairwise_cons, List.mem_cons, List.not_mem_nil, or_false, forall_eq_or_imp,
      forall_eq] at ordered
    -- what was settled at the third read bounds what was found, and was queued by then
    have settled := (counters d₂ (by simp)).2
    have lost := (counters d₄ (by simp)).1
    have begun := (kept.sound d₀ (by simp [desks])).filed.counted
    have ended := (kept.sound d₂ (by simp [desks])).filed.counted
    have indexed : d₁.writer.stats.indexed ≤ d₂.writer.stats.indexed := ordered.2.1.1.counters .indexed
    refine ⟨d₀, d₁, d₂, d₃, d₄, desks, found, ?_, ?_⟩ <;> rw [found] <;> dsimp only <;> omega
  · rw [counted, List.length_nil, Nat.add_zero] at settled
    refine ⟨s.archive.stats, rfl, ?_, ?_⟩ <;> rw [here] <;> assumption

/-! ## Looks that find a contradiction -/

/-- A document is queued, sent and indexed, and its submission has not counted it yet. -/
def uncountedYet : List Deed := [
  .act (.offer (Ledger.page "a")), .act (.proceed 0), .act (.move 1 .receive),
  .act (.move 2 (.conclude (.outcomes [.created "a"])))]

/-- A document is submitted, sent and indexed between the first read of a look and the second. -/
def indexedMeanwhile : List Deed := [
  .glance, .act (.offer (Ledger.page "a")), .act (.proceed 0), .act (.proceed 0), .act (.move 1 .receive),
  .act (.move 2 (.conclude (.outcomes [.created "a"]))), .read 0, .read 0, .read 0, .read 0]

/-- A look reads how many calls were made, and the first one is made and fails before the last read. -/
def failedMeanwhile : List Deed := [
  .glance, .read 0, .read 0, .read 0, .act (.offer (Ledger.page "a")), .act (.proceed 0), .act (.proceed 0),
  .act (.move 1 .receive), .act (.move 2 (.conclude .failed)), .read 0]

/-- A look finds one document indexed and none submitted: all that can have come between its reads. -/
theorem meanwhile_one_is_indexed :
    ((start ⟨1, 10, 5⟩ 0).run indexedMeanwhile).glances.map (·.look.found) = [⟨0, 1, 0, 1, 0⟩] ∧
    ∀ g ∈ ((start ⟨1, 10, 5⟩ 0).run indexedMeanwhile).glances, ∃ d₀ d₁ d₂ d₃ d₄,
      g.desks = [d₀, d₁, d₂, d₃, d₄] ∧
      g.look.found.indexed + g.look.found.failed ≤ g.look.found.submitted + d₀.uncounted.length +
        (d₂.ledger.entered.length - d₀.ledger.entered.length) := by
  obtain ⟨-, -, looks, -⟩ :=
    looks_are_apart_by_what_came (o := (start ⟨1, 10, 5⟩ 0).run indexedMeanwhile) rfl (by decide +kernel)
  have done : ∀ g ∈ ((start ⟨1, 10, 5⟩ 0).run indexedMeanwhile).glances, g.look.isOver = true := by
    decide +kernel
  refine ⟨by decide +kernel, fun g member => ?_⟩
  obtain ⟨d₀, d₁, d₂, d₃, d₄, desks, -, apart, -⟩ := looks g member (done g member)
  exact ⟨d₀, d₁, d₂, d₃, d₄, desks, apart⟩

/-- Although every reply fits its call, there can be more documents indexed than were counted as submitted; and a
look can find more indexed than submitted, or more calls failed than made. -/
theorem counters_contradict_each_other :
    (¬ ∀ (settings : Settings) (time : Nat) (deeds : List Deed) (o : Office),
      (start settings time).run deeds = o → (∀ call ∈ o.desk.ledger.calls, call.2.Fits call.1.length) →
      o.desk.writer.stats.indexed + o.desk.writer.stats.failed ≤ o.desk.writer.stats.submitted) ∧
    (¬ ∀ (settings : Settings) (time : Nat) (deeds : List Deed) (o : Office),
      (start settings time).run deeds = o → (∀ call ∈ o.desk.ledger.calls, call.2.Fits call.1.length) →
      ∀ g ∈ o.glances, g.look.isOver = true →
        g.look.found.indexed + g.look.found.failed ≤ g.look.found.submitted) ∧
    ¬ ∀ (settings : Settings) (time : Nat) (deeds : List Deed) (o : Office),
      (start settings time).run deeds = o → (∀ call ∈ o.desk.ledger.calls, call.2.Fits call.1.length) →
      ∀ g ∈ o.glances, g.look.isOver = true → g.look.found.failedFlushes ≤ g.look.found.flushes := by
  refine ⟨fun claim => ?_, fun claim => ?_, fun claim => ?_⟩
  · have settled := claim ⟨1, 10, 5⟩ 0 uncountedYet _ rfl (by decide +kernel)
    exact absurd settled (by decide +kernel)
  · have settled := claim ⟨1, 10, 5⟩ 0 indexedMeanwhile _ rfl (by decide +kernel)
    exact absurd settled (by decide +kernel)
  · have lost := claim ⟨1, 10, 5⟩ 0 failedMeanwhile _ rfl (by decide +kernel)
    exact absurd lost (by decide +kernel)

end Office
end Heartbeat.Archive
