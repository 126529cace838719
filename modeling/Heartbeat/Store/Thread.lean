import Heartbeat.Store.Database
/-!
# Serving the store

One thread owns the database. Clients put commands into a first-in first-out channel and wait for
the answers; the thread takes one command at a time, carries it out and answers it. A command to shut
down ends the thread: what is still in the channel is dropped, and whoever waits for it learns that
nobody serves the store any more, as does everybody who comes later.
-/
namespace Heartbeat.Store

open Time (Instant)

inductive Command where
  | create (name address : String) (status : Status)
  | find (address : String)
  | setStatus (addresses : List String) (membership : Membership) (status : Status)
  | list
  | shutdown
  deriving DecidableEq, Repr

inductive Answer where
  | created (result : Except Fault Record)
  | found (result : Except Fault (Option Record))
  | updated (result : Except Fault Nat)
  | listed (result : Except Fault (List Record))
  /-- A command to shut down was taken into the channel. -/
  | shutdown (result : Except Fault Unit)

/-- What a command is answered when nobody serves the store. -/
def Command.refused : Command → Answer
  | .create .. => .created (.error .unavailable)
  | .find _ => .found (.error .unavailable)
  | .setStatus .. => .updated (.error .unavailable)
  | .list => .listed (.error .unavailable)
  | .shutdown => .shutdown (.error .unavailable)

/-- Carries out a command at the given time. -/
def Database.run (db : Database) (now : Instant) : Command → Answer × Database
  | .create name address status =>
    let (result, db) := db.create now name address status
    (.created result, db)
  | .find address =>
    let (result, db) := db.find address
    (.found result, db)
  | .setStatus addresses membership status =>
    let (result, db) := db.setStatus now addresses membership status
    (.updated result, db)
  | .list =>
    let (result, db) := db.list
    (.listed result, db)
  | .shutdown => (.shutdown (.ok ()), db)

/-- What the thread is doing. -/
inductive Duty where
  /-- It waits for a command. -/
  | waiting
  /-- It has taken a command out of the channel. -/
  | working (ticket : Nat) (command : Command)
  /-- It has carried out a command, and the answer is on its way. -/
  | answering (ticket : Nat) (answer : Answer)
  /-- It has taken a command to shut down. The channel still takes commands. -/
  | leaving
  | ended

/-- The thread, its channel, and the answers that clients have got. A ticket tells the commands
apart. -/
structure Thread where
  database : Database := {}
  channel : List (Nat × Command) := []
  answers : List (Nat × Answer) := []
  duty : Duty := .waiting

namespace Thread

/-- A client sends a command. A command to shut down is answered as soon as it is in the channel. -/
def send (t : Thread) (ticket : Nat) (command : Command) : Thread :=
  match t.duty, command with
  | .ended, _ => { t with answers := (ticket, command.refused) :: t.answers }
  | _, .shutdown =>
    { t with
      channel := t.channel ++ [(ticket, command)]
      answers := (ticket, .shutdown (.ok ())) :: t.answers }
  | _, _ => { t with channel := t.channel ++ [(ticket, command)] }

/-- What the commands left in the channel are answered when the thread ends. -/
def refuseAll (left : List (Nat × Command)) : List (Nat × Answer) :=
  left.filterMap fun (ticket, command) =>
    match command with
    | .shutdown => none
    | command => some (ticket, command.refused)

/-- The thread does what is next. It waits as long as there is nothing in the channel. -/
def serve (t : Thread) (now : Instant) : Thread :=
  match t.duty, t.channel with
  | .waiting, [] => t
  | .waiting, (_, .shutdown) :: rest => { t with duty := .leaving, channel := rest }
  | .waiting, (ticket, command) :: rest => { t with duty := .working ticket command, channel := rest }
  | .working ticket command, _ =>
    let (answer, database) := t.database.run now command
    { t with database, duty := .answering ticket answer }
  | .answering ticket answer, _ =>
    { t with duty := .waiting, answers := (ticket, answer) :: t.answers }
  | .leaving, left =>
    { t with duty := .ended, channel := [], answers := refuseAll left ++ t.answers }
  | .ended, _ => t

def serveFor (t : Thread) (now : Instant) : Nat → Thread
  | 0 => t
  | n + 1 => (t.serve now).serveFor now n

/-- The answer to a ticket, once there is one. -/
def answer? (t : Thread) (ticket : Nat) : Option Answer := t.answers.lookup ticket

/-- A client that waits for its answer while nobody else does anything. The thread takes the command,
carries it out and answers it. -/
def request (t : Thread) (now : Instant) (ticket : Nat) (command : Command) : Option Answer × Thread :=
  let t := (t.send ticket command).serveFor now 3
  (t.answer? ticket, t)

end Thread
end Heartbeat.Store
