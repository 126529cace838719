import Mathlib.Data.List.Nodup
import Mathlib.Data.List.Perm.Basic
import Mathlib.Data.List.Range
import Heartbeat.Proofs.Store.Table
import Heartbeat.Store.Thread

/-! Clients of the store, as many as there are, send their commands while the thread serves them, in any order
of all these steps. The channel makes the order of the commands: what was carried out is the front of it, up to
a command to shut down, and the database and every answer are as if the commands had come one at a time. Who is
told that the store is unavailable has changed nothing; and nobody waits for ever. A channel that is full makes
a client wait before its call is one, and a client that no longer waits misses its answer; neither shows in
anything else. -/
namespace Heartbeat.Store
open Heartbeat.Time (Instant)

/-! ## One command at a time -/

/-- A command that was carried out, with its ticket and its time. -/
structure Carried where
  now : Instant
  ticket : Nat
  command : Command

def Carried.entry (c : Carried) : Nat × Command := (c.ticket, c.command)

/-- The database after commands one at a time. -/
def Database.replay (db : Database) (carried : List Carried) : Database :=
  carried.foldl (fun db c => (db.run c.now c.command).2) db

@[simp]
theorem Database.replay_concat (db : Database) (carried : List Carried) (c : Carried) :
    db.replay (carried ++ [c]) = ((db.replay carried).run c.now c.command).2 := by
  simp [replay]

/-- What the database answers is never that it is not there. -/
theorem Database.run_ne_refused (db : Database) (now : Instant) (command : Command) :
    (db.run now command).1 ≠ command.refused := by
  intro same
  cases command with
  | create name address status =>
    simp only [run, Command.refused, Answer.created.injEq] at same
    unfold Database.create at same
    split at same
    · cases same
    · rename_i t held
      rcases t.create_cases now name address status with ⟨eq, -⟩ | ⟨eq, -⟩ | ⟨eq, -⟩ <;>
        (rw [eq] at same; cases same)
  | find address =>
    simp only [run, Command.refused, Answer.found.injEq] at same
    unfold Database.find at same
    split at same
    · cases same
    · rename_i t held
      rcases t.find_cases address with ⟨eq, -⟩ | ⟨_, -, -, -, eq⟩ | ⟨_, -, -, _, -, eq⟩ <;>
        (rw [eq] at same; cases same)
  | setStatus addresses membership status =>
    simp only [run, Command.refused, Answer.updated.injEq] at same
    unfold Database.setStatus Database.setStatusFailing at same
    split at same <;> cases same
  | list =>
    simp only [run, Command.refused, Answer.listed.injEq] at same
    unfold Database.list Table.list at same
    repeat' split at same
    all_goals cases same
  | shutdown => cases same

/-! ## Sessions -/

/-- A thread and what has come of its clients. The ticket of a call is its place among all calls. -/
structure Session where
  thread : Thread
  /-- The commands of all calls, oldest first. -/
  calls : List Command := []
  /-- The commands that have entered the channel, in this order. -/
  entered : List (Nat × Command) := []
  /-- The commands that were carried out, in this order. -/
  carried : List Carried := []

/-- Something that happens between the clients and the thread. -/
inductive Deed where
  /-- A client calls. -/
  | call (command : Command)
  /-- The thread goes on. -/
  | serve (now : Instant)

/-- What the thread carries out next. -/
def Thread.carries (t : Thread) (now : Instant) : List Carried :=
  match t.duty with
  | .working ticket command => [⟨now, ticket, command⟩]
  | _ => []

/-- What enters the channel when a client sends a command. -/
def Thread.admits (t : Thread) (ticket : Nat) (command : Command) : List (Nat × Command) :=
  match t.duty with
  | .ended => []
  | _ => [(ticket, command)]

namespace Session

def start (db : Database) : Session := { thread := { database := db } }

def after (s : Session) : Deed → Session
  | .call command =>
    { s with
      thread := s.thread.send s.calls.length command
      calls := s.calls ++ [command]
      entered := s.entered ++ s.thread.admits s.calls.length command }
  | .serve now =>
    { s with thread := s.thread.serve now, carried := s.carried ++ s.thread.carries now }

def run (s : Session) (deeds : List Deed) : Session := deeds.foldl after s

/-- The command of a ticket was not carried out. -/
def Unserved (s : Session) (ticket : Nat) : Prop := ∀ c ∈ s.carried, c.ticket ≠ ticket

variable {s s' : Session} {db : Database}

/-- What a deed can come to. -/
inductive Moved (s : Session) : Session → Prop where
  /-- There is nothing to do. -/
  | rests : Moved s s
  /-- A call comes too late. -/
  | refuses (command : Command) (ended : s.thread.duty = .ended) :
      Moved s { s with
        thread := { s.thread with
          answers := (s.calls.length, command.refused) :: s.thread.answers }
        calls := s.calls ++ [command] }
  | queues {command : Command} (opened : s.thread.duty ≠ .ended) (request : command ≠ .shutdown) :
      Moved s { s with
        thread := { s.thread with channel := s.thread.channel ++ [(s.calls.length, command)] }
        calls := s.calls ++ [command]
        entered := s.entered ++ [(s.calls.length, command)] }
  /-- A command to shut down is in the channel, and whoever sent it is told so. -/
  | bids (opened : s.thread.duty ≠ .ended) :
      Moved s { s with
        thread := { s.thread with
          channel := s.thread.channel ++ [(s.calls.length, .shutdown)]
          answers := (s.calls.length, .shutdown (.ok ())) :: s.thread.answers }
        calls := s.calls ++ [.shutdown]
        entered := s.entered ++ [(s.calls.length, .shutdown)] }
  | takes {ticket : Nat} {command : Command} {rest : List (Nat × Command)}
      (waiting : s.thread.duty = .waiting) (head : s.thread.channel = (ticket, command) :: rest)
      (request : command ≠ .shutdown) :
      Moved s { s with
        thread := { s.thread with duty := .working ticket command, channel := rest } }
  | leaves {ticket : Nat} {rest : List (Nat × Command)} (waiting : s.thread.duty = .waiting)
      (head : s.thread.channel = (ticket, .shutdown) :: rest) :
      Moved s { s with thread := { s.thread with duty := .leaving, channel := rest } }
  | carriesOut {ticket : Nat} {command : Command} (now : Instant)
      (working : s.thread.duty = .working ticket command) :
      Moved s { s with
        thread := { s.thread with
          database := (s.thread.database.run now command).2
          duty := .answering ticket (s.thread.database.run now command).1 }
        carried := s.carried ++ [⟨now, ticket, command⟩] }
  | answers {ticket : Nat} {answer : Answer} (answering : s.thread.duty = .answering ticket answer) :
      Moved s { s with
        thread := { s.thread with duty := .waiting, answers := (ticket, answer) :: s.thread.answers } }
  /-- The thread is gone, and what was left in the channel is refused. -/
  | ends (leaving : s.thread.duty = .leaving) :
      Moved s { s with
        thread := { s.thread with
          duty := .ended
          channel := []
          answers := Thread.refuseAll s.thread.channel ++ s.thread.answers } }

theorem moved_call (s : Session) (command : Command) : s.Moved (s.after (.call command)) := by
  obtain ⟨⟨database, channel, answers, duty⟩, calls, entered, carried⟩ := s
  cases duty with
  | ended =>
    simp only [after, Thread.send, Thread.admits, List.append_nil]
    exact .refuses command rfl
  | _ =>
    cases command with
    | shutdown => exact .bids (by simp)
    | _ => exact .queues (by simp) (by simp)

theorem moved_serve (s : Session) (now : Instant) : s.Moved (s.after (.serve now)) := by
  obtain ⟨⟨database, channel, answers, duty⟩, calls, entered, carried⟩ := s
  cases duty with
  | waiting =>
    simp only [after, Thread.carries, List.append_nil]
    cases channel with
    | nil => exact .rests
    | cons entry rest =>
      obtain ⟨ticket, command⟩ := entry
      cases command with
      | shutdown => exact .leaves rfl rfl
      | _ => exact .takes rfl rfl (by simp)
  | working ticket command => exact .carriesOut now rfl
  | answering ticket answer =>
    simp only [after, Thread.carries, List.append_nil]
    exact .answers rfl
  | leaving =>
    simp only [after, Thread.carries, List.append_nil]
    exact .ends rfl
  | ended =>
    simp only [after, Thread.carries, List.append_nil]
    exact .rests

/-- **One deed**: there is nothing else that it can come to. -/
theorem moved (s : Session) (deed : Deed) : s.Moved (s.after deed) := by
  cases deed with
  | call command => exact s.moved_call command
  | serve now => exact s.moved_serve now

end Session

/-! ## The order of the channel -/

/-- The thread has these commands before it, in this order. Behind a command to shut down it will do nothing. -/
def Thread.Faces (t : Thread) (ahead : List (Nat × Command)) : Prop :=
  match t.duty with
  | .waiting | .answering .. => ahead = t.channel
  | .working ticket command => ahead = (ticket, command) :: t.channel ∧ command ≠ .shutdown
  | .leaving => ∃ ticket, ahead = (ticket, .shutdown) :: t.channel
  | .ended => t.channel = [] ∧ ∃ ticket left, ahead = (ticket, .shutdown) :: left

/-- Commands join at the back. -/
theorem Thread.Faces.join {t : Thread} {ahead : List (Nat × Command)} (faces : t.Faces ahead)
    (opened : t.duty ≠ .ended) (entry : Nat × Command) (answers : List (Nat × Answer)) :
    Thread.Faces { t with channel := t.channel ++ [entry], answers } (ahead ++ [entry]) := by
  obtain ⟨database, channel, before, duty⟩ := t
  cases duty with
  | waiting => exact congrArg (· ++ [entry]) faces
  | working ticket command => exact ⟨congrArg (· ++ [entry]) faces.1, faces.2⟩
  | answering ticket answer => exact congrArg (· ++ [entry]) faces
  | leaving =>
    obtain ⟨ticket, eq⟩ := faces
    exact ⟨ticket, congrArg (· ++ [entry]) eq⟩
  | ended => exact absurd rfl opened

namespace Session

variable {s s' : Session} {db : Database} {ticket : Nat} {command : Command} {answer : Answer}

/-- What was carried out is the front of what has entered the channel, and has made the database. -/
structure Ordered (db : Database) (s : Session) : Prop where
  database : s.thread.database = db.replay s.carried
  line : ∃ ahead, s.entered = s.carried.map Carried.entry ++ ahead ∧ s.thread.Faces ahead
  requests : ∀ c ∈ s.carried, c.command ≠ .shutdown
  own : ∀ entry ∈ s.entered, s.calls[entry.1]? = some entry.2
  once : (s.entered.map Prod.fst).Nodup

theorem ordered_start (db : Database) : (start db).Ordered db where
  database := rfl
  line := ⟨[], rfl, rfl⟩
  requests := by rintro c ⟨⟩
  own := by rintro entry ⟨⟩
  once := List.nodup_nil

/-- The tickets in the channel belong to earlier calls. -/
theorem Ordered.lt (ordered : s.Ordered db) {entry : Nat × Command} (member : entry ∈ s.entered) :
    entry.1 < s.calls.length :=
  (List.getElem?_eq_some_iff.mp (ordered.own entry member)).1

theorem Ordered.own_later (ordered : s.Ordered db) (command : Command) {entry : Nat × Command}
    (member : entry ∈ s.entered) : (s.calls ++ [command])[entry.1]? = some entry.2 := by
  rw [List.getElem?_append_left (ordered.lt member)]
  exact ordered.own entry member

/-- A call that enters the channel is the last there. -/
theorem Ordered.enter (ordered : s.Ordered db) (opened : s.thread.duty ≠ .ended) (command : Command)
    (answers : List (Nat × Answer)) :
    Ordered db { s with
      thread := { s.thread with channel := s.thread.channel ++ [(s.calls.length, command)], answers }
      calls := s.calls ++ [command]
      entered := s.entered ++ [(s.calls.length, command)] } where
  database := ordered.database
  line := by
    obtain ⟨ahead, eq, faces⟩ := ordered.line
    exact ⟨ahead ++ [(s.calls.length, command)], by rw [eq, List.append_assoc],
      faces.join opened _ answers⟩
  requests := ordered.requests
  own entry member := by
    rcases List.mem_append.mp member with old | new
    · exact ordered.own_later command old
    · obtain rfl := List.mem_singleton.mp new
      simp
  once := by
    rw [List.map_append, List.nodup_append]
    refine ⟨ordered.once, List.nodup_singleton _, ?_⟩
    rintro a old b new rfl
    obtain ⟨entry, member, rfl⟩ := List.mem_map.mp old
    have early := ordered.lt member
    simp at new
    omega

theorem Ordered.step (ordered : s.Ordered db) (moved : s.Moved s') : s'.Ordered db := by
  obtain ⟨ahead, eq, faces⟩ := ordered.line
  cases moved with
  | rests => exact ordered
  | refuses command ended =>
    exact ⟨ordered.database, ⟨ahead, eq, faces⟩, ordered.requests,
      fun entry member => ordered.own_later command member, ordered.once⟩
  | queues opened request => exact ordered.enter opened _ _
  | bids opened => exact ordered.enter opened _ _
  | takes waiting head request =>
    refine ⟨ordered.database, ⟨ahead, eq, ?_⟩, ordered.requests, ordered.own, ordered.once⟩
    simp only [Thread.Faces, waiting, head] at faces ⊢
    exact ⟨faces, request⟩
  | @leaves ticket rest waiting head =>
    refine ⟨ordered.database, ⟨ahead, eq, ?_⟩, ordered.requests, ordered.own, ordered.once⟩
    simp only [Thread.Faces, waiting, head] at faces ⊢
    exact ⟨ticket, faces⟩
  | @carriesOut ticket command now working =>
    simp only [Thread.Faces, working] at faces
    obtain ⟨rfl, request⟩ := faces
    refine ⟨?_, ⟨s.thread.channel, by simp [eq, Carried.entry], rfl⟩, fun c member => ?_, ordered.own,
      ordered.once⟩
    · rw [Database.replay_concat, ← ordered.database]
    · rcases List.mem_append.mp member with old | new
      · exact ordered.requests c old
      · obtain rfl := List.mem_singleton.mp new
        exact request
  | answers answering =>
    refine ⟨ordered.database, ⟨ahead, eq, ?_⟩, ordered.requests, ordered.own, ordered.once⟩
    simpa only [Thread.Faces, answering] using faces
  | ends leaving =>
    refine ⟨ordered.database, ⟨ahead, eq, ?_⟩, ordered.requests, ordered.own, ordered.once⟩
    simp only [Thread.Faces, leaving] at faces ⊢
    obtain ⟨ticket, faces⟩ := faces
    exact ⟨trivial, ticket, _, faces⟩

theorem Ordered.entered (ordered : s.Ordered db) {c : Carried} (served : c ∈ s.carried) :
    c.entry ∈ s.entered := by
  obtain ⟨ahead, eq, -⟩ := ordered.line
  rw [eq]
  exact List.mem_append_left _ (List.mem_map_of_mem served)

/-- Who has not come out of the channel was not served. -/
theorem Ordered.unserved (ordered : s.Ordered db) {ahead : List (Nat × Command)}
    (eq : s.entered = s.carried.map Carried.entry ++ ahead) {entry : Nat × Command}
    (member : entry ∈ ahead) : s.Unserved entry.1 := by
  have once := ordered.once
  rw [eq, List.map_append, List.nodup_append] at once
  intro c served same
  exact once.2.2 c.ticket (List.mem_map.mpr ⟨c.entry, List.mem_map_of_mem served, rfl⟩) entry.1
    (List.mem_map_of_mem member) same

/-! ## What clients are told -/

/-- What a client may be told of its command: the answer of the database after the commands before it; that
the thread will shut down; or that nobody serves the store, and that is so. -/
inductive Told (db : Database) (s : Session) (ticket : Nat) : Command → Answer → Prop where
  | served {before behind : List Carried} {c : Carried} (place : s.carried = before ++ c :: behind)
      (own : c.ticket = ticket) :
      Told db s ticket c.command ((db.replay before).run c.now c.command).1
  | taken (entered : (ticket, .shutdown) ∈ s.entered) :
      Told db s ticket .shutdown (.shutdown (.ok ()))
  | refused (command : Command) (unserved : s.Unserved ticket) (ended : s.thread.duty = .ended) :
      Told db s ticket command command.refused

/-- Who is told that nobody serves the store has changed nothing. -/
theorem Told.unserved (told : Told db s ticket command answer) (refused : answer = command.refused) :
    s.Unserved ticket := by
  cases told with
  | served place own => exact absurd refused (Database.run_ne_refused _ _ _)
  | taken entered => cases refused
  | refused command unserved ended => exact unserved

/-- Who was not served is told so. -/
theorem Told.eq_refused (told : Told db s ticket command answer) (unserved : s.Unserved ticket)
    (request : command ≠ .shutdown) : answer = command.refused := by
  cases told with
  | @served before behind c place own =>
    exact absurd own (unserved c (place ▸ List.mem_append_right _ (.head _)))
  | taken entered => exact absurd rfl request
  | refused command unserved ended => rfl

/-- The client of a ticket is told the truth about its own command. -/
def Honest (db : Database) (s : Session) (ticket : Nat) (answer : Answer) : Prop :=
  ∃ command, s.calls[ticket]? = some command ∧ Told db s ticket command answer

/-- What was told stays true. -/
theorem Told.later (told : Told db s ticket command answer) (moved : s.Moved s') :
    Told db s' ticket command answer := by
  cases told with
  | served place own =>
    cases moved with
    | carriesOut now working =>
      exact .served (by rw [place, List.append_assoc, List.cons_append]) own
    | _ => exact .served place own
  | taken entered =>
    cases moved with
    | queues | bids => exact .taken (List.mem_append_left _ entered)
    | _ => exact .taken entered
  | refused command unserved ended =>
    cases moved with
    | rests => exact .refused command unserved ended
    | refuses other => exact .refused command unserved ended
    | queues opened | bids opened => exact absurd ended opened
    | takes other | leaves other | carriesOut _ other | answers other | ends other =>
      cases ended.symm.trans other

theorem Honest.later (honest : Honest db s ticket answer) (moved : s.Moved s') :
    Honest db s' ticket answer := by
  obtain ⟨command, called, told⟩ := honest
  refine ⟨command, ?_, told.later moved⟩
  have inside := (List.getElem?_eq_some_iff.mp called).1
  cases moved with
  | refuses | queues | bids => exact (List.getElem?_append_left inside).trans called
  | _ => exact called

/-- What was left in the channel is refused, each command in its own way. -/
theorem of_mem_refuseAll {left : List (Nat × Command)} (member : (ticket, answer) ∈ Thread.refuseAll left) :
    ∃ command, (ticket, command) ∈ left ∧ answer = command.refused := by
  obtain ⟨⟨ticket', command⟩, inside, eq⟩ := List.mem_filterMap.mp member
  cases command <;> cases eq <;> exact ⟨_, inside, rfl⟩

/-- Everything that was told was honest, and what is about to be told is. -/
structure Truthful (db : Database) (s : Session) : Prop where
  told : ∀ pair ∈ s.thread.answers, Honest db s pair.1 pair.2
  ready : ∀ ticket answer, s.thread.duty = .answering ticket answer → Honest db s ticket answer

theorem Truthful.step (truthful : s.Truthful db) (ordered : s.Ordered db) (moved : s.Moved s') :
    s'.Truthful db := by
  have told : ∀ pair ∈ s.thread.answers, Honest db s' pair.1 pair.2 :=
    fun pair member => (truthful.told pair member).later moved
  have ready : ∀ ticket answer, s.thread.duty = .answering ticket answer → Honest db s' ticket answer :=
    fun ticket answer duty => (truthful.ready ticket answer duty).later moved
  obtain ⟨ahead, eq, faces⟩ := ordered.line
  cases moved with
  | rests => exact truthful
  | refuses command ended =>
    refine ⟨fun pair member => ?_, ready⟩
    rcases List.mem_cons.mp member with rfl | old
    · refine ⟨command, List.getElem?_concat_length, .refused command (fun c served same => ?_) ended⟩
      exact absurd same (Nat.ne_of_lt (ordered.lt (ordered.entered served)))
    · exact told pair old
  | queues => exact ⟨told, ready⟩
  | bids =>
    refine ⟨fun pair member => ?_, ready⟩
    rcases List.mem_cons.mp member with rfl | old
    · exact ⟨.shutdown, List.getElem?_concat_length, .taken (List.mem_append_right _ (.head _))⟩
    · exact told pair old
  | takes => exact ⟨told, by rintro _ _ ⟨⟩⟩
  | leaves => exact ⟨told, by rintro _ _ ⟨⟩⟩
  | @carriesOut ticket command now working =>
    refine ⟨told, ?_⟩
    rintro _ _ ⟨⟩
    simp only [Thread.Faces, working] at faces
    have entered : (ticket, command) ∈ s.entered :=
      eq ▸ faces.1 ▸ List.mem_append_right _ (.head _)
    refine ⟨command, ordered.own _ entered, ?_⟩
    rw [ordered.database]
    exact .served (c := ⟨now, ticket, command⟩) rfl rfl
  | answers answering =>
    refine ⟨fun pair member => ?_, by rintro _ _ ⟨⟩⟩
    rcases List.mem_cons.mp member with rfl | old
    · exact ready _ _ answering
    · exact told pair old
  | ends leaving =>
    refine ⟨fun pair member => ?_, by rintro _ _ ⟨⟩⟩
    rcases List.mem_append.mp member with new | old
    · obtain ⟨command, inside, same⟩ := of_mem_refuseAll new
      simp only [Thread.Faces, leaving] at faces
      obtain ⟨shutter, rfl⟩ := faces
      have entered : (pair.1, command) ∈ s.entered :=
        eq ▸ List.mem_append_right _ (.tail _ inside)
      refine ⟨command, ordered.own _ entered, ?_⟩
      rw [same]
      exact .refused command (ordered.unserved eq (.tail _ inside)) rfl
    · exact told pair old

end Session

/-! ## Who is still waiting -/

/-- The tickets of the commands that have an answer coming; a command to shut down has had its own. -/
def requests (entries : List (Nat × Command)) : List Nat :=
  (entries.filter fun entry => entry.2 ≠ .shutdown).map Prod.fst

theorem Thread.map_refuseAll (left : List (Nat × Command)) :
    (refuseAll left).map Prod.fst = requests left := by
  induction left with
  | nil => rfl
  | cons entry rest ih =>
    obtain ⟨ticket, command⟩ := entry
    simp only [refuseAll, requests] at ih
    cases command <;> simp [refuseAll, requests, ih]

/-- The tickets that the thread still owes an answer. -/
def Thread.owes (t : Thread) : List Nat :=
  match t.duty with
  | .working ticket _ | .answering ticket _ => ticket :: requests t.channel
  | .waiting | .leaving => requests t.channel
  | .ended => []

theorem Thread.owes_join {t : Thread} (opened : t.duty ≠ .ended) (entry : Nat × Command)
    (answers : List (Nat × Answer)) :
    Thread.owes { t with channel := t.channel ++ [entry], answers } = t.owes ++ requests [entry] := by
  obtain ⟨database, channel, before, duty⟩ := t
  cases duty with
  | ended => exact absurd rfl opened
  | _ => simp [owes, requests]

/-- How much the thread has to do before it has nothing left to do. -/
def Thread.backlog (t : Thread) : Nat :=
  match t.duty with
  | .waiting => 3 * t.channel.length
  | .working .. => 3 * t.channel.length + 2
  | .answering .. | .leaving => 3 * t.channel.length + 1
  | .ended => 0

namespace Session

variable {s s' : Session} {db : Database} {ticket : Nat} {command : Command} {answer : Answer}

/-- Every call has had its answer or is owed it, and none of them twice. -/
def Balanced (s : Session) : Prop :=
  (s.thread.answers.map Prod.fst ++ s.thread.owes).Perm (List.range s.calls.length)

/-- A call that is answered at once. -/
private theorem perm_answered {answered owed : List Nat} {n : Nat}
    (balanced : (answered ++ owed).Perm (List.range n)) :
    (n :: answered ++ owed).Perm (List.range (n + 1)) := by
  rw [List.range_succ]
  exact (balanced.cons n).trans (List.perm_append_singleton n _).symm

theorem Balanced.step (balanced : s.Balanced) (moved : s.Moved s') : s'.Balanced := by
  unfold Balanced at balanced ⊢
  cases moved with
  | rests => exact balanced
  | refuses command ended =>
    simpa [Thread.owes] using perm_answered balanced
  | @queues command opened request =>
    have own : requests [(s.calls.length, command)] = [s.calls.length] := by simp [requests, request]
    rw [Thread.owes_join opened, own, ← List.append_assoc, List.length_append, List.length_singleton,
      List.range_succ]
    exact balanced.append_right _
  | bids opened =>
    have silent : requests [(s.calls.length, Command.shutdown)] = [] := rfl
    rw [Thread.owes_join opened, silent, List.append_nil]
    simpa using perm_answered balanced
  | takes waiting head request =>
    simpa [Thread.owes, waiting, head, requests, request] using balanced
  | leaves waiting head =>
    simpa [Thread.owes, waiting, head, requests] using balanced
  | carriesOut now working => simpa [Thread.owes, working] using balanced
  | answers answering =>
    simp only [Thread.owes, answering] at balanced ⊢
    exact List.perm_middle.symm.trans balanced
  | ends leaving =>
    simp only [Thread.owes, leaving, List.map_append, Thread.map_refuseAll] at balanced ⊢
    simpa [requests] using List.perm_append_comm.trans balanced

/-- As long as an answer is owed, the thread has something to do. -/
theorem owes_eq_nil {t : Thread} (idle : t.backlog = 0) : t.owes = [] := by
  obtain ⟨database, channel, answers, duty⟩ := t
  cases duty <;> cases channel <;> simp [Thread.backlog, Thread.owes, requests] at idle ⊢

/-- The thread does not stop before it has nothing left to do. -/
theorem backlog_serve (s : Session) (now : Instant) (busy : s.thread.backlog ≠ 0) :
    (s.after (.serve now)).thread.backlog < s.thread.backlog := by
  obtain ⟨⟨database, channel, answers, duty⟩, calls, entered, carried⟩ := s
  cases duty with
  | waiting =>
    cases channel with
    | nil => exact absurd rfl busy
    | cons entry rest =>
      obtain ⟨ticket, command⟩ := entry
      cases command <;> simp [after, Thread.serve, Thread.backlog] <;> omega
  | ended => exact absurd rfl busy
  | _ => simp [after, Thread.serve, Thread.backlog]

/-! ## Runs -/

/-- The invariant of a session over a database. -/
structure Sound (db : Database) (s : Session) : Prop where
  ordered : s.Ordered db
  truthful : s.Truthful db
  balanced : s.Balanced

theorem sound_start (db : Database) : (start db).Sound db where
  ordered := ordered_start db
  truthful := ⟨by rintro pair ⟨⟩, by rintro ticket answer ⟨⟩⟩
  balanced := .refl _

theorem Sound.after (sound : s.Sound db) (deed : Deed) : (s.after deed).Sound db :=
  have moved := s.moved deed
  ⟨sound.ordered.step moved, sound.truthful.step sound.ordered moved, sound.balanced.step moved⟩

theorem Sound.run (sound : s.Sound db) (deeds : List Deed) : (s.run deeds).Sound db := by
  induction deeds generalizing s with
  | nil => exact sound
  | cons deed rest ih => exact ih (sound.after deed)

/-- The thread, left to itself. -/
def serving (s : Session) (now : Instant) (n : Nat) : Session := s.run (List.replicate n (.serve now))

theorem calls_serving (s : Session) (now : Instant) (n : Nat) : (s.serving now n).calls = s.calls := by
  induction n generalizing s with
  | zero => rfl
  | succ n ih => exact ih (s.after (.serve now))

/-- Left to itself, the thread comes to an end of its work. -/
theorem backlog_serving (s : Session) (now : Instant) : ∃ n, (s.serving now n).thread.backlog = 0 := by
  induction bound : s.thread.backlog using Nat.strong_induction_on generalizing s with
  | _ backlog ih =>
    by_cases idle : backlog = 0
    · exact ⟨0, bound.trans idle⟩
    · have less := s.backlog_serve now (bound ▸ idle)
      obtain ⟨n, rest⟩ := ih _ (bound ▸ less) (s.after (.serve now)) rfl
      exact ⟨n + 1, rest⟩

theorem Sound.answered (sound : s.Sound db) (idle : s.thread.backlog = 0) (called : ticket < s.calls.length) :
    ∃ answer, (ticket, answer) ∈ s.thread.answers := by
  have balanced := sound.balanced
  rw [Balanced, owes_eq_nil idle, List.append_nil] at balanced
  obtain ⟨⟨_, answer⟩, member, rfl⟩ :=
    List.mem_map.mp (balanced.mem_iff.mpr (List.mem_range.mpr called))
  exact ⟨answer, member⟩

/-- Nothing behind a command to shut down is carried out. -/
theorem Ordered.unserved_behind (ordered : s.Ordered db) {front behind : List (Nat × Command)}
    {shutter : Nat} (eq : s.entered = front ++ (shutter, .shutdown) :: behind)
    {entry : Nat × Command} (member : entry ∈ behind) : s.Unserved entry.1 := by
  obtain ⟨ahead, line, -⟩ := ordered.line
  have closed : (shutter, Command.shutdown) ∉ s.carried.map Carried.entry := by
    intro served
    obtain ⟨c, inside, same⟩ := List.mem_map.mp served
    exact ordered.requests c inside (congrArg Prod.snd same)
  have served : s.carried.map Carried.entry <+: s.entered := ⟨ahead, line.symm⟩
  have marked : front ++ [(shutter, .shutdown)] <+: s.entered := ⟨behind, by rw [eq]; simp⟩
  have reached : s.carried.map Carried.entry <+: front ++ [(shutter, .shutdown)] := by
    refine (List.prefix_or_prefix_of_prefix served marked).resolve_right fun longer => ?_
    exact closed (longer.subset (List.mem_append_right _ (.head _)))
  obtain same | ⟨rest, eq'⟩ := List.prefix_concat_iff.mp reached
  · exact absurd (same ▸ List.mem_append_right _ (.head _)) closed
  · have ahead' : s.entered = s.carried.map Carried.entry ++ (rest ++ (shutter, .shutdown) :: behind) := by
      rw [eq, ← eq', List.append_assoc]
    exact ordered.unserved ahead' (List.mem_append_right _ (.tail _ member))

/-- What the clients of a session see of the store, over the database of the start. -/
structure Serial (db : Database) (s : Session) : Prop where
  /-- The database is what the commands that were carried out make of it, one at a time. -/
  database : s.thread.database = db.replay s.carried
  /-- They were carried out in the order in which commands entered the channel, and none was left out. -/
  order : s.carried.map Carried.entry <+: s.entered
  /-- A command enters the channel once, as it was called for. -/
  once : (s.entered.map Prod.fst).Nodup
  own : ∀ entry ∈ s.entered, s.calls[entry.1]? = some entry.2
  /-- A call has one answer at most, and that is honest. -/
  single : (s.thread.answers.map Prod.fst).Nodup
  honest : ∀ ticket answer, (ticket, answer) ∈ s.thread.answers → Honest db s ticket answer
  /-- What comes behind a command to shut down is not carried out and is refused; whoever shuts down as well
  has been told when the command entered. -/
  behind : ∀ front shutter behind, s.entered = front ++ (shutter, .shutdown) :: behind →
    ∀ ticket command, (ticket, command) ∈ behind → s.Unserved ticket ∧
      ∀ answer, (ticket, answer) ∈ s.thread.answers → command ≠ .shutdown → answer = command.refused
  /-- What is refused was not carried out. -/
  refused : ∀ ticket command, s.calls[ticket]? = some command →
    (ticket, command.refused) ∈ s.thread.answers → s.Unserved ticket
  /-- The thread answers every call in the end. -/
  answered : ∀ now, ∃ n, ∀ ticket < s.calls.length,
    ∃ answer, (ticket, answer) ∈ (s.serving now n).thread.answers

theorem Sound.serial (sound : s.Sound db) : s.Serial db where
  database := sound.ordered.database
  order := by
    obtain ⟨ahead, eq, -⟩ := sound.ordered.line
    exact ⟨ahead, eq.symm⟩
  once := sound.ordered.once
  own := sound.ordered.own
  single := (List.nodup_append.mp (sound.balanced.nodup_iff.mpr List.nodup_range)).1
  honest ticket answer member := sound.truthful.told _ member
  behind front shutter behind eq ticket command member := by
    have unserved := sound.ordered.unserved_behind eq member
    refine ⟨unserved, fun answer given request => ?_⟩
    obtain ⟨called, own, told⟩ := sound.truthful.told _ given
    have entered : (ticket, command) ∈ s.entered := eq ▸ List.mem_append_right _ (.tail _ member)
    obtain rfl : called = command := by simpa using own.symm.trans (sound.ordered.own _ entered)
    exact told.eq_refused unserved request
  refused ticket command called given := by
    obtain ⟨own, called', told⟩ := sound.truthful.told _ given
    obtain rfl : own = command := by simpa using called'.symm.trans called
    exact told.unserved rfl
  answered now := by
    obtain ⟨n, idle⟩ := s.backlog_serving now
    refine ⟨n, fun ticket called => (sound.run _).answered idle ?_⟩
    rwa [← s.calls_serving now n] at called

/-- **Clients are served one at a time**, however their calls and the work of the thread come between one
another. -/
theorem clients_are_served_one_at_a_time (db : Database) (deeds : List Deed) :
    ((start db).run deeds).Serial db :=
  ((sound_start db).run deeds).serial

/-- Two servers are created around a command to shut down. -/
def aroundShutdown : List Deed :=
  [.call (.create "a" "a" .up), .serve .epoch, .call .shutdown, .call (.create "b" "b" .up)] ++
    List.replicate 4 (.serve .epoch)

/-- The first one is created, and the second one is refused. -/
theorem refused_behind_shutdown :
    ((start {}).run aroundShutdown).thread.answers =
      [(2, .created (.error .unavailable)), (0, .created (.ok ⟨1, "a", "a", .up, .epoch, .epoch⟩)),
        (1, .shutdown (.ok ()))] ∧
    ((start {}).run aroundShutdown).Unserved 2 := by
  have answers : ((start {}).run aroundShutdown).thread.answers =
      [(2, .created (.error .unavailable)), (0, .created (.ok ⟨1, "a", "a", .up, .epoch, .epoch⟩)),
        (1, .shutdown (.ok ()))] := by rfl
  refine ⟨answers, (clients_are_served_one_at_a_time {} aroundShutdown).refused 2 (.create "b" "b" .up) rfl ?_⟩
  rw [answers]
  exact .head _

end Session
end Heartbeat.Store
