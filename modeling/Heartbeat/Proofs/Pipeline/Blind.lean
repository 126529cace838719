import Heartbeat.Proofs.Pipeline.Shutdown

/-! What the archive keeps to itself. A daemon is looked at by somebody who sees of the archive only what was
handed to it, and of a document nothing of its random id. To him every event does what it does to the whole
daemon, and the moves of the archive's task do nothing. So two runs that differ in these moves alone, and
with them in all that the index replies or fails to reply, look the same to him. -/
namespace Heartbeat
open Archive (Writer Item)

/-! ## Looking away -/

/-- The item under no id. -/
def Archive.Item.unnamed (item : Item) : Item := { item with id := "" }

/-- The processed signal with its document under no id. -/
def Processed.unnamed (processed : Processed) : Processed := { processed with documentId := "" }

/-- A writer that was handed the same and has done nothing with it. -/
def Archive.Writer.blind (w : Writer) : Writer :=
  { settings := ⟨0, 0, 0⟩
    queue := w.given.map Item.unnamed
    nextTick := 0
    closed := w.closed
    deserted := w.deserted
    stats := { submitted := w.stats.submitted } }

def ProcessPhase.blind : ProcessPhase → ProcessPhase
  | .count processed => .count processed.unnamed
  | .done result => .done (result.map Processed.unnamed)
  | phase => phase

def Worker.blind : Worker → Worker
  | .busy signal phase => .busy signal phase.blind
  | worker => worker

/-- An index that takes nothing, and no ids. -/
def Services.Aside.blind (aside : Services.Aside) : Services.Aside where
  topic := aside.topic
  archive := aside.archive.blind
  index _ _ := .failed
  documentId _ := ""

/-- The services over another index, with other ids for the documents. -/
def Services.withIndex (s : Services) (index : Writer.IndexBehaviour) (ids : Nat → String) : Services :=
  { s with index, documentId := ids }

def Services.blind (s : Services) : Services := s.setAside s.aside.blind

/-- What became of a signal, with its document under no id. -/
def unnamed (entry : Signal × Except ProcessFault Processed) : Signal × Except ProcessFault Processed :=
  (entry.1, entry.2.map Processed.unnamed)

def Pipeline.blind (p : Pipeline) : Pipeline :=
  { p with
    services := p.services.blind
    workers := p.workers.map Worker.blind
    finished := p.finished.map unnamed
    ended := false }

/-- Whether the archive has ended makes no difference. -/
def Stage.blind : Stage → Stage
  | .returned => .archive
  | stage => stage

/-- The daemon as it looks to somebody who sees of the archive only what was handed to it. -/
def Daemon.blind (d : Daemon) : Daemon :=
  { d with pipeline := d.pipeline.blind, stage := d.stage.blind }

/-- An event as it looks to him. He sees no moves of the archive's task, and not what stands in for the index
and the ids from now on. -/
def Event.blind? : Event → Option Event
  | .archive _ => none
  | .elsewhere services => some (.elsewhere services.blind)
  | event => some event

/-! ## The archive -/

namespace Archive.Writer

variable {w w' : Writer}

theorem Keeps.blind (keeps : w.Keeps w') : w'.blind = w.blind := by
  simp only [Writer.blind, keeps.given, keeps.closed, keeps.deserted, keeps.submitted]

theorem blind_enqueue (item : Item) :
    ({ w with queue := w.queue ++ [item] } : Writer).blind =
      { w.blind with queue := w.blind.queue ++ [item.unnamed] } := by
  simp only [blind, given_enqueue, List.map_append, List.map_singleton]

/-- A step of the task is one of its moves, whatever the index. -/
theorem perform_of_step? {index : IndexBehaviour} {now : Nat} (step : w.step? index now = some w') :
    ∃ move, w' = w.perform now move := by
  unfold step? at step
  split at step
  · split at step
    · split at step
      · cases step
        exact ⟨.conclude .silent, rfl⟩
      · cases step
    · cases step
      exact ⟨.conclude _, rfl⟩
  · split at step
    · cases step
      exact ⟨.receive, rfl⟩
    · split at step
      · cases step
        exact ⟨.tick, rfl⟩
      · split at step
        · cases step
          exact ⟨.notice, rfl⟩
        · cases step
  · cases step
    exact ⟨.drain, rfl⟩
  · cases step

end Archive.Writer

/-! ## One operation -/

namespace Services

variable {s : Services}

theorem Oblivious.blind {op : Services → α × Services} (oblivious : Oblivious op) (s : Services) :
    op s.blind = ((op s).1, (op s).2.blind) := oblivious.changed Aside.blind s

/-- What an archive that has not ended makes of a document. -/
theorem enqueue_running (running : s.archive.phase ≠ .stopped) (document : Document) :
    s.enqueue document = (some (s.documentId s.documents),
      { s with
        archive :=
          { s.archive with queue := s.archive.queue ++ [⟨s.documentId s.documents, document⟩] }
        documents := s.documents + 1 }) := by
  simp only [enqueue, Writer.enqueue?, if_neg running]

theorem enqueue_blind (running : s.archive.phase ≠ .stopped) (document : Document) :
    s.blind.enqueue document = (some "", (s.enqueue document).2.blind) := by
  have running' : s.blind.archive.phase ≠ .stopped := nofun
  rw [enqueue_running running', enqueue_running running]
  simp only [blind, aside, Aside.blind, Writer.blind_enqueue]
  rfl

end Services

namespace ProcessPhase

variable {s : Services}

theorem blind_afterResolve (phase : ResolvePhase) : (afterResolve phase).blind = afterResolve phase := by
  unfold afterResolve
  split <;> rfl

/-- **An operation of a signal is the same to the blind**, as long as the archive has not ended. -/
theorem step_blind (running : s.archive.phase ≠ .stopped) (signal : Signal) (phase : ProcessPhase) :
    phase.blind.step Services.backend signal s.blind =
      ((phase.step Services.backend signal s).1.blind,
        (phase.step Services.backend signal s).2.blind) := by
  cases phase with
  | mark mark =>
    cases mark with
    | look =>
      have next (seen : Bool) : (if seen then resolve .lookUp else mark .add).blind =
          if seen then resolve .lookUp else mark .add := by
        cases seen <;> rfl
      exact congrArg (·, s.blind) (next (s.tracker.contains signal.address)).symm
    | add => rfl
    | done => rfl
  | resolve phase =>
    show step Services.backend signal (.resolve phase) s.blind = _
    simp only [step, (phase.oblivious_step signal.address).blind, blind_afterResolve]
  | stamp => rfl
  | cache record resolution =>
    simp only [blind, step, cacheRecord, Services.backend]
    rw [(Services.oblivious_cacheSet _ _).blind]
  | submit record resolution =>
    simp only [blind, step, Services.backend, Services.enqueue_blind running,
      Services.enqueue_running running]
    rfl
  | count => rfl
  | done => rfl

end ProcessPhase

/-! ## One step -/

namespace Pipeline

variable {p : Pipeline} {i : Nat}

theorem setArchive_blind {archive : Writer} (same : archive.blind = p.services.archive.blind) :
    (p.setArchive archive).blind = p.blind := by
  simp only [setArchive, blind, Services.blind, Services.aside, Services.Aside.blind, same]
  rfl

theorem pollDispatcher_blind (p : Pipeline) : p.blind.pollDispatcher = p.pollDispatcher.blind := by
  have topic : p.blind.services.topic = p.services.topic := rfl
  have dispatcher : p.blind.dispatcher = p.dispatcher := rfl
  unfold pollDispatcher
  rw [topic, dispatcher]
  split <;> rfl

theorem workers_blind (p : Pipeline) (i : Nat) : p.blind.workers[i]? = (p.workers[i]?).map Worker.blind :=
  List.getElem?_map

theorem nextWrite_blind (p : Pipeline) (i : Nat) : p.blind.nextWrite i = p.nextWrite i := by
  unfold nextWrite
  rw [workers_blind]
  cases p.workers[i]? with
  | none => rfl
  | some worker =>
    cases worker with
    | busy signal phase => cases phase <;> rfl
    | idle => rfl
    | gone => rfl

theorem set_blind (p : Pipeline) (i : Nat) (worker : Worker) :
    ({ p with workers := p.workers.set i worker } : Pipeline).blind =
      { p.blind with workers := p.blind.workers.set i worker.blind } := by
  simp only [blind, List.map_set]

/-- A worker goes on in the same way, as long as it does not find the archive at its end. -/
theorem stepWorkerAt?_blind (running : ∀ signal phase, p.workers[i]? = some (.busy signal phase) →
      p.services.archive.phase ≠ .stopped) :
    p.blind.stepWorkerAt? i = (p.stepWorkerAt? i).map Pipeline.blind := by
  unfold stepWorkerAt?
  rw [workers_blind]
  cases at_ : p.workers[i]? with
  | none => rfl
  | some worker =>
    cases worker with
    | gone => rfl
    | idle =>
      simp only [Option.map_some, Worker.blind, Option.bind_eq_bind, Option.bind_some, stepWorker?]
      have queue : p.blind.queue = p.queue := rfl
      rw [queue]
      generalize p.queue.ask i = asked
      obtain ⟨_ | signal, after⟩ := asked
      · by_cases isOver : after.isOver
        · simp only [isOver, if_true, Option.bind_some, Option.pure_def, Option.map_some]
          exact congrArg some (set_blind { p with queue := after } i .gone).symm
        · by_cases parked : i ∈ p.queue.parked
          · simp only [isOver, parked]
            rfl
          · simp only [isOver, parked, if_false, Option.pure_def]
            exact congrArg some (set_blind { p with queue := after } i .idle).symm
      · exact congrArg some (set_blind { p with queue := after } i (.busy signal .start)).symm
    | busy signal phase =>
      have beside := ProcessPhase.step_blind (running signal phase at_) signal phase
      change phase.blind.step Services.backend signal p.blind.services = _ at beside
      simp only [Option.map_some, Worker.blind, Option.bind_eq_bind, Option.bind_some, stepWorker?, beside]
      generalize phase.step Services.backend signal p.services = after
      obtain ⟨next, services⟩ := after
      cases next with
      | done result =>
        exact congrArg some
          (set_blind { p with services, finished := (signal, result) :: p.finished } i .idle).symm
      | _ => exact congrArg some (set_blind { p with services } i (.busy signal _)).symm

theorem stepSweep?_blind (p : Pipeline) : p.blind.stepSweep? = p.stepSweep?.map Pipeline.blind :=
  p.stepSweep?_changed fun beside =>
    { services := beside.services.blind
      workers := beside.workers.map Worker.blind
      finished := beside.finished.map unnamed
      ended := false }

end Pipeline

namespace Daemon

variable {d : Daemon}

theorem joined_blind (d : Daemon) :
    d.blind.pipeline.workers.all Worker.isGone = d.pipeline.workers.all Worker.isGone := by
  show (d.pipeline.workers.map Worker.blind).all Worker.isGone = _
  rw [List.all_map]
  congr 1
  funext worker
  cases worker <;> rfl

/-- The shutdown waits for the archive last. -/
theorem shutdown_blind (d : Daemon) : d.blind.shutdown = d.shutdown.blind := by
  obtain ⟨p, stage, published, read, pending, written⟩ := d
  cases stage with
  | running => rfl
  | dispatcher =>
    by_cases ready : p.dispatcher.phase = .stopped
    · simp only [shutdown, ready, if_true]
      exact if_pos ready
    · simp only [shutdown, ready, if_false]
      exact if_neg ready
  | workers =>
    have same := joined_blind ⟨p, .workers, published, read, pending, written⟩
    by_cases ready : p.workers.all Worker.isGone = true
    · simp only [shutdown, ready, if_true]
      exact if_pos (same.trans ready)
    · simp only [shutdown, ready, Bool.false_eq_true, if_false]
      exact if_neg fun gone => ready (same.symm.trans gone)
  | sweeps =>
    by_cases ready : p.sweeping.isNone = true
    · simp only [shutdown, ready, if_true]
      exact if_pos ready
    · simp only [shutdown, ready, Bool.false_eq_true, if_false]
      exact if_neg ready
  | archive =>
    -- to the blind the archive never ends; a shutdown that waits for it looks like one that has returned
    by_cases ready : p.services.archive.phase = .stopped
    · simp only [shutdown, ready, if_true]
      exact if_neg nofun
    · simp only [shutdown, ready, if_false]
      exact if_neg nofun
  | returned => rfl

theorem publish_blind (d : Daemon) (payload : Bytes) : d.blind.publish payload = (d.publish payload).blind := by
  unfold publish
  have topic : d.blind.pipeline.services.topic = d.pipeline.services.topic := rfl
  rw [topic]
  by_cases none : d.pipeline.services.topic.publishers = 0
  · rw [if_pos none, if_pos none]
  · rw [if_neg none, if_neg none]
    cases d.pipeline.services.topic.publish payload <;> rfl

/-- **An event is the same to the blind**, and a move of the archive's task is nothing. -/
theorem after_blind (sound : d.Sound) (event : Event) :
    (d.after event).blind = (event.blind?).elim d.blind d.blind.after := by
  cases event with
  | publish payload => exact (d.publish_blind payload).symm
  | addPublisher => rfl
  | removePublisher => rfl
  | dispatch =>
    have poll : d.blind.pipeline.pollDispatcher = _ := d.pipeline.pollDispatcher_blind
    show d.dispatch.blind = d.blind.dispatch
    simp only [dispatch, poll]
    rfl
  | readFails =>
    show ({ d with pipeline := d.pipeline.failRead } : Daemon).blind =
      { d.blind with pipeline := d.blind.pipeline.failRead }
    have dispatcher : d.blind.pipeline.dispatcher = d.pipeline.dispatcher := rfl
    unfold Pipeline.failRead
    rw [dispatcher]
    split <;> rfl
  | work i =>
    have running (signal : Signal) (phase : ProcessPhase)
        (busy : d.pipeline.workers[i]? = some (.busy signal phase)) :
        d.pipeline.services.archive.phase ≠ .stopped := by
      -- a worker that is at work keeps the archive open, and one that is open serves
      intro ended
      have serving := sound.archival.writer.serving (sound.archival.isOpen busy rfl)
      rw [Writer.mode?, show d.archival.archive.phase = .stopped from ended] at serving
      cases serving
    have step : d.blind.pipeline.stepWorkerAt? i = _ := Pipeline.stepWorkerAt?_blind running
    have write : d.blind.pipeline.nextWrite i = _ := d.pipeline.nextWrite_blind i
    simp only [Event.blind?, Option.elim_some, after, step, write]
    cases d.pipeline.stepWorkerAt? i <;> rfl
  | archive move =>
    obtain ⟨-, keeps⟩ := sound.archival.writer.move d.pipeline.services.now move
    exact congrArg (fun p => { d.blind with pipeline := p }) (Pipeline.setArchive_blind keeps.blind)
  | desert =>
    simp only [Event.blind?, Option.elim_some, after, joined_blind]
    by_cases joined : d.pipeline.workers.all Worker.isGone = true
    · rw [if_pos joined, if_pos joined]
      rfl
    · rw [if_neg joined, if_neg joined]
  | sweep =>
    have step : d.blind.pipeline.stepSweep? = _ := d.pipeline.stepSweep?_blind
    simp only [Event.blind?, Option.elim_some, after, step]
    cases d.pipeline.stepSweep? <;> rfl
  | cancel => rfl
  | shutdown => exact d.shutdown_blind.symm
  | elsewhere services => rfl

/-! ## Whole runs -/

/-- **A run is the same to the blind** without the moves of the archive's task. -/
theorem run_blind (sound : d.Sound) (events : List Event) :
    (d.run events).blind = d.blind.run (events.filterMap Event.blind?) := by
  induction events generalizing d with
  | nil => rfl
  | cons event events ih =>
    have here := after_blind sound event
    have rest : ((d.after event).run events).blind = _ := ih (sound.after event)
    rw [here] at rest
    rw [List.filterMap_cons]
    cases seen : event.blind? <;> (rw [seen] at rest; exact rest)

/-- A turn of a schedule. -/
inductive Turn where
  | happens (event : Event)
  /-- The archive's task takes the step that the index lets it take, if there is one. -/
  | archive

def Turn.blind? : Turn → Option Event
  | .happens event => event.blind?
  | .archive => none

/-- The daemon after a turn. -/
def take (d : Daemon) : Turn → Daemon
  | .happens event => d.after event
  | .archive => { d with pipeline := d.pipeline.stepArchive?.getD d.pipeline }

/-- The daemon after a schedule. -/
def play (d : Daemon) (turns : List Turn) : Daemon := turns.foldl take d

/-- The step of the archive's task is one of its moves. -/
theorem take_run (d : Daemon) (turn : Turn) :
    ∃ events, d.take turn = d.run events ∧ events.filterMap Event.blind? = turn.blind?.toList := by
  cases turn with
  | happens event =>
    refine ⟨[event], rfl, ?_⟩
    rw [List.filterMap_cons]
    cases seen : event.blind? <;> simp [Turn.blind?, seen]
  | archive =>
    cases step : d.pipeline.services.archive.step? d.pipeline.services.index d.pipeline.services.now with
    | none => exact ⟨[], by simp [take, Pipeline.stepArchive?, step, run], rfl⟩
    | some archive =>
      obtain ⟨move, rfl⟩ := Writer.perform_of_step? step
      exact ⟨[.archive move], by simp [take, Pipeline.stepArchive?, step, run, after, Pipeline.setArchive], rfl⟩

/-- A schedule comes to a run of events. -/
theorem play_run (d : Daemon) (turns : List Turn) :
    ∃ events, d.play turns = d.run events ∧ events.filterMap Event.blind? = turns.filterMap Turn.blind? := by
  induction turns generalizing d with
  | nil => exact ⟨[], rfl, rfl⟩
  | cons turn turns ih =>
    obtain ⟨first, taken, seen⟩ := d.take_run turn
    obtain ⟨later, played, left⟩ := ih (d.take turn)
    refine ⟨first ++ later, ?_, ?_⟩
    · show (d.take turn).play turns = _
      rw [played, taken]
      exact List.foldl_append.symm
    · rw [List.filterMap_append, seen, left, List.filterMap_cons]
      cases turn.blind? <;> rfl

variable {settings : PipelineSettings} {services : Services} {index index' : Writer.IndexBehaviour}
  {ids ids' : Nat → String} {turns turns' : List Turn} {d' : Daemon}

/-- The blind see of a schedule what happens, but for the archive's task and to whatever index. -/
theorem play_blind (fresh : services.archive = .start settings.archive services.now)
    (index : Writer.IndexBehaviour) (ids : Nat → String) (turns : List Turn) :
    ((start settings (services.withIndex index ids)).play turns).blind =
      (start settings services).blind.run (turns.filterMap Turn.blind?) := by
  obtain ⟨events, played, seen⟩ := play_run (start settings (services.withIndex index ids)) turns
  have sound : (start settings (services.withIndex index ids)).Sound := sound_start settings _ fresh
  rw [played, run_blind sound, seen]
  rfl

/-- **Archival never feeds back.** Two daemons start alike but for the index and the ids of documents, and the
same happens to both but for the archive's task: it goes on when it likes, and the index replies what it
likes, or never. Then the same has become of every signal, but for the ids, and the tracker, the store, the
cache and the count of what was submitted are the same. The daemons differ in nothing but what the archive has
made of the documents that it was handed, and whether the shutdown, which waits for it last, has returned. -/
theorem archival_never_feeds_back (fresh : services.archive = .start settings.archive services.now)
    (played : (start settings (services.withIndex index ids)).play turns = d)
    (played' : (start settings (services.withIndex index' ids')).play turns' = d')
    (alike : turns.filterMap Turn.blind? = turns'.filterMap Turn.blind?) :
    d.pipeline.finished.map unnamed = d'.pipeline.finished.map unnamed ∧
    d.pipeline.services.tracker = d'.pipeline.services.tracker ∧
    d.pipeline.services.database = d'.pipeline.services.database ∧
    d.pipeline.services.cache = d'.pipeline.services.cache ∧
    d.pipeline.services.archive.stats.submitted = d'.pipeline.services.archive.stats.submitted ∧
    d.pipeline.services.archive.given.map Item.unnamed =
      d'.pipeline.services.archive.given.map Item.unnamed ∧
    d.blind = d'.blind := by
  have same : d.blind = d'.blind := by
    rw [← played, ← played', play_blind fresh, play_blind fresh, alike]
  have finished := congrArg (fun d => d.pipeline.finished) same
  have services := congrArg (fun d => d.pipeline.services) same
  have tracker := congrArg Services.tracker services
  have database := congrArg Services.database services
  have cache := congrArg Services.cache services
  have archive := congrArg Services.archive services
  have submitted := congrArg (fun w => w.stats.submitted) archive
  have given := congrArg Writer.queue archive
  exact ⟨finished, tracker, database, cache, submitted, given, same⟩

/-! ## An index that hangs and one that refuses -/

/-- Two hosts are heard of and read; after each of them has been processed the archive takes its turns. -/
def visits : List Turn :=
  [.happens (.publish (Text.encode (Message.render ⟨"a", 0, 1⟩))),
      .happens (.publish (Text.encode (Message.render ⟨"b", 0, 1⟩)))] ++
    List.replicate 8 (.happens .dispatch) ++ List.replicate 11 (.happens (.work 0)) ++
    List.replicate 2 .archive ++ List.replicate 11 (.happens (.work 0)) ++ List.replicate 2 .archive

/-- A daemon after that, with batches of one document. -/
def visited (services : Services) : Daemon := (start ⟨1, 2, 0, ⟨1, 1, 1⟩, 1⟩ services).play visits

/-- Services over an index that never replies. -/
def hung : Services := Services.plain.withIndex (fun _ _ => .silent) fun _ => "x"

/-- Services over an index that refuses everything. -/
def refused : Services := Services.plain.withIndex (fun _ _ => .failed) fun _ => "y"

theorem hung_index_changes_nothing :
    (visited hung).pipeline.services.archive.inFlight = 1 ∧
    (visited refused).pipeline.services.archive.stats.failedFlushes = 2 ∧
    (visited hung).pipeline.finished.map (fun entry => entry.1.address) = ["b", "a"] ∧
    (visited hung).pipeline.finished.map unnamed = (visited refused).pipeline.finished.map unnamed ∧
    (visited hung).pipeline.services.archive.stats.submitted =
      (visited refused).pipeline.services.archive.stats.submitted := by
  have first : (start ⟨1, 2, 0, ⟨1, 1, 1⟩, 1⟩ hung).play visits = visited hung := rfl
  have second : (start ⟨1, 2, 0, ⟨1, 1, 1⟩, 1⟩ refused).play visits = visited refused := rfl
  obtain ⟨finished, -, -, -, submitted, -⟩ := archival_never_feeds_back rfl first second rfl
  exact ⟨by decide +kernel, by decide +kernel, by decide +kernel, finished, submitted⟩

end Daemon

end Heartbeat
