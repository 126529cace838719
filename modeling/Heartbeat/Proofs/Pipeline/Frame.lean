import Heartbeat.Services

/-! What the operations of the tasks leave alone. Calls to the store change the tracker, the database, the
disturbances and the count of clock readings, and nothing else; they and the sweeps are oblivious of the topic
and the archive; and no operation but the dispatcher's read looks at the topic, so that each commutes with
replacing it. -/
namespace Heartbeat

variable {s : Services} {address name : String} {status : Status}

namespace Services

/-! ## Calls to the store -/

/-- The services after calls to the store. -/
inductive StoreOnly (s : Services) : Services → Prop where
  | mk (tracker : Tracker) (database : Store.Database)
      (disturbances : List (StoreCall × Disturbance)) (readings : Nat) :
      StoreOnly s { s with tracker, database, disturbances, readings }

theorem StoreOnly.refl (s : Services) : s.StoreOnly s :=
  .mk s.tracker s.database s.disturbances s.readings

theorem StoreOnly.trans {s' s'' : Services} (first : s.StoreOnly s') (second : s'.StoreOnly s'') :
    s.StoreOnly s'' := by
  cases first
  cases second with | mk tracker database disturbances readings =>
  exact .mk tracker database disturbances readings

/-- The database may be changed once more. -/
theorem StoreOnly.database {s' : Services} (before : s.StoreOnly s') (database : Store.Database) :
    s.StoreOnly { s' with database } := by
  cases before with | mk tracker _ disturbances readings => exact .mk tracker database disturbances readings

/-- The clock may be read once more. -/
theorem StoreOnly.reading {s' : Services} (before : s.StoreOnly s') :
    s.StoreOnly { s' with readings := s'.readings + 1 } := by
  cases before with | mk tracker database disturbances readings =>
  exact .mk tracker database disturbances (readings + 1)

theorem disturb_storeOnly (call : StoreCall) (address : String) :
    s.StoreOnly (s.disturb call address).2 := by
  unfold disturb
  generalize takeFirst call s.disturbances = first
  obtain ⟨disturbance, rest⟩ := first
  cases disturbance with
  | none => exact .mk s.tracker s.database rest s.readings
  | unavailable => exact .mk s.tracker s.database rest s.readings
  | conflict => exact .mk s.tracker s.database rest s.readings
  | rival => exact .mk s.tracker _ rest (s.readings + 1)
  | mark marked => exact .mk (s.tracker.mark marked) s.database rest s.readings

theorem find_storeOnly : s.StoreOnly (s.find address).2 := by
  have before := disturb_storeOnly (s := s) .find address
  unfold find
  split <;> (rename_i eq; rw [eq] at before)
  · exact before
  · exact before.database _

theorem create_storeOnly : s.StoreOnly (s.create name address status).2 := by
  have before := disturb_storeOnly (s := s) .create address
  unfold create
  split <;> (rename_i eq; rw [eq] at before)
  · exact before
  · exact before.reading.database _

theorem setStatus_storeOnly (addresses : List String) (membership : Store.Membership)
    (status : Status) : s.StoreOnly (s.setStatus addresses membership status).2 := by
  have before := disturb_storeOnly (s := s) .setStatus ""
  unfold setStatus
  split <;> (rename_i eq; rw [eq] at before)
  · exact before
  · exact before.reading.database _

/-! ## What most operations do not look at -/

/-- What stands aside of the store, the cache and the tracker. -/
structure Aside where
  topic : Topic
  archive : Archive.Writer
  index : Archive.Writer.IndexBehaviour
  documentId : Nat → String

def aside (s : Services) : Aside := ⟨s.topic, s.archive, s.index, s.documentId⟩

/-- The services with other things aside. -/
def setAside (s : Services) (aside : Aside) : Services :=
  { s with
    topic := aside.topic
    archive := aside.archive
    index := aside.index
    documentId := aside.documentId }

/-- The services with another topic. -/
def setTopic (s : Services) (topic : Topic) : Services := { s with topic }

/-- The operation neither looks at what stands aside nor changes it. -/
def Oblivious (op : Services → α × Services) : Prop :=
  ∀ s aside, op (s.setAside aside) = ((op s).1, (op s).2.setAside aside)

variable {op : Services → α × Services} {topic : Topic}

theorem Oblivious.aside (oblivious : Oblivious op) (s : Services) : (op s).2.aside = s.aside := by
  have same : op s = ((op s).1, (op s).2.setAside s.aside) := oblivious s s.aside
  rw [same]
  rfl

/-- An oblivious operation commutes with any change of what stands aside. -/
theorem Oblivious.changed (oblivious : Oblivious op) (change : Aside → Aside) (s : Services) :
    op (s.setAside (change s.aside)) = ((op s).1, (op s).2.setAside (change (op s).2.aside)) := by
  rw [oblivious, oblivious.aside]

theorem Oblivious.setTopic (oblivious : Oblivious op) (s : Services) (topic : Topic) :
    op (s.setTopic topic) = ((op s).1, (op s).2.setTopic topic) :=
  oblivious.changed (fun aside => { aside with topic }) s

theorem oblivious_disturb (call : StoreCall) (address : String) : Oblivious (disturb call address) := by
  intro s aside
  unfold disturb
  simp only [setAside]
  generalize takeFirst call s.disturbances = first
  obtain ⟨disturbance, rest⟩ := first
  cases disturbance <;> rfl

theorem oblivious_find (address : String) : Oblivious (find address) := by
  intro s aside
  unfold find
  rw [oblivious_disturb]
  generalize s.disturb .find address = after
  obtain ⟨fault | _, s'⟩ := after <;> rfl

theorem oblivious_create (name address : String) (status : Status) :
    Oblivious (create name address status) := by
  intro s aside
  unfold create
  rw [oblivious_disturb]
  generalize s.disturb .create address = after
  obtain ⟨fault | _, s'⟩ := after <;> rfl

theorem oblivious_setStatus (addresses : List String) (membership : Store.Membership) (status : Status) :
    Oblivious (setStatus addresses membership status) := by
  intro s aside
  unfold setStatus
  rw [oblivious_disturb]
  generalize s.disturb .setStatus "" = after
  obtain ⟨fault | _, s'⟩ := after <;> rfl

theorem oblivious_cacheSet (key value : String) : Oblivious (cacheSet key value) := by
  intro s aside
  cases fails : s.cacheWriteFails <;> simp [cacheSet, setAside, fails]

theorem enqueue_setTopic {document : Document} :
    (s.setTopic topic).enqueue document =
      ((s.enqueue document).1, (s.enqueue document).2.setTopic topic) := by
  simp only [enqueue, setTopic]
  cases s.archive.enqueue? ⟨s.documentId s.documents, document⟩ <;> rfl

end Services

variable {topic : Topic}

/-! ## The tasks -/

theorem ResolvePhase.step_storeOnly (phase : ResolvePhase) (address : String) (s : Services) :
    s.StoreOnly (phase.step Services.backend address s).2 := by
  cases phase with
  | lookUp => exact .refl s
  | find => exact s.find_storeOnly
  | create => exact s.create_storeOnly
  | findAgain => exact s.find_storeOnly
  | done => exact .refl s

theorem ResolvePhase.oblivious_step (phase : ResolvePhase) (address : String) :
    Services.Oblivious (phase.step Services.backend address) := by
  intro s aside
  cases phase with
  | lookUp => rfl
  | find => simp only [step, Services.backend, Services.oblivious_find _ s]
  | create => simp only [step, Services.backend, Services.oblivious_create _ _ _ s]
  | findAgain => simp only [step, Services.backend, Services.oblivious_find _ s]
  | done => rfl

/-- Work on a signal does not depend on the topic. -/
theorem ProcessPhase.step_setTopic {signal : Signal} (phase : ProcessPhase) :
    phase.step Services.backend signal (s.setTopic topic) =
      ((phase.step Services.backend signal s).1,
        (phase.step Services.backend signal s).2.setTopic topic) := by
  cases phase with
  | mark mark => cases mark <;> rfl
  | resolve phase => simp only [step, (phase.oblivious_step signal.address).setTopic]
  | stamp => rfl
  | cache =>
    simp only [step, cacheRecord, Services.backend]
    rw [(Services.oblivious_cacheSet _ _).setTopic]
  | submit =>
    simp only [step, Services.backend, Services.enqueue_setTopic]
    generalize s.enqueue _ = queued
    obtain ⟨_ | _, s'⟩ := queued <;> rfl
  | count => rfl
  | done => rfl

theorem ProcessPhase.step_topic (phase : ProcessPhase) (signal : Signal) (s : Services) :
    (phase.step Services.backend signal s).2.topic = s.topic := by
  have beside : phase.step Services.backend signal (s.setTopic s.topic) = _ := phase.step_setTopic
  exact congrArg (fun after => after.2.topic) beside

/-- Nor does a sweep look at what stands aside. -/
theorem SweepPhase.step_setAside (phase : SweepPhase) (sweeps : SweepStatus) (s : Services)
    (aside : Services.Aside) :
    phase.step Services.backend (sweeps, s.setAside aside) =
      ((phase.step Services.backend (sweeps, s)).1,
        (phase.step Services.backend (sweeps, s)).2.1,
        (phase.step Services.backend (sweeps, s)).2.2.setAside aside) := by
  cases phase with
  | announce => rfl
  | take => rfl
  | markUp window =>
    simp only [step, Services.backend, Services.oblivious_setStatus _ _ _ s]
    generalize s.setStatus window .inside .up = written
    obtain ⟨_ | _, s'⟩ := written <;> rfl
  | markDown window =>
    simp only [step, Services.backend, Services.oblivious_setStatus _ _ _ s]
    generalize s.setStatus window .outside .down = written
    obtain ⟨_ | _, s'⟩ := written <;> rfl
  | finish => rfl
  | conclude => rfl
  | done => rfl

theorem SweepPhase.step_storeOnly (phase : SweepPhase) (sweeps : SweepStatus) (s : Services) :
    s.StoreOnly (phase.step Services.backend (sweeps, s)).2.2 := by
  cases phase with
  | announce => exact .refl s
  | take => exact .mk _ s.database s.disturbances s.readings
  | markUp window =>
    have written := s.setStatus_storeOnly window .inside .up
    simp only [step, Services.backend]
    split <;> (rename_i eq; rwa [eq] at written)
  | markDown window =>
    have written := s.setStatus_storeOnly window .outside .down
    simp only [step, Services.backend]
    split <;> (rename_i eq; rwa [eq] at written)
  | finish => exact (Services.StoreOnly.refl s).reading
  | conclude => exact .refl s
  | done => exact .refl s

end Heartbeat
