import Heartbeat.Proofs.Store.Update
import Heartbeat.Store.Thread

/-! Status updates that fail. The first statement to stop ends a transaction, and what the connection keeps
between calls, the temporary table and whether a missing table was noticed, is of no consequence for any
update: each looks at the table of servers alone. So nothing that is asked of the database after a failed
update can tell that there was one, not even by what the temporary table has been left with. -/
namespace Heartbeat.Store.Database
open Heartbeat.Time (Instant)

variable {db db' other : Database} {t : Table} {now : Instant} {listed : List String}
  {membership : Membership} {status : Status} {fails : Nat → Bool} {statement : Statement}
  {sequence : List Statement} {state state' : Nat × Database}
  {answer : Except Fault Nat}

/-! ## The statement that stops an update -/

/-- The statement at this place fails, or it needs a table that is gone. -/
def Stops (fails : Nat → Bool) (db : Database) (index : Nat) (statement : Statement) : Prop :=
  fails index = true ∨ (statement = .update ∧ db.table = none)

/-- The statement at this place is the first of a sequence that stops it. -/
structure Breaks (fails : Nat → Bool) (db : Database) (sequence : List Statement) (index : Nat)
    (statement : Statement) : Prop where
  here : sequence[index]? = some statement
  stops : Stops fails db index statement
  before : ∀ earlier other, earlier < index → sequence[earlier]? = some other →
    ¬ Stops fails db earlier other

theorem stops_congr (same : db.table = other.table) (index : Nat) (statement : Statement) :
    Stops fails db index statement ↔ Stops fails other index statement := by
  rw [Stops, Stops, same]

/-- Only one statement is the first. -/
theorem Breaks.unique {index index' : Nat} {statement' : Statement}
    (breaks : Breaks fails db sequence index statement)
    (breaks' : Breaks fails other sequence index' statement') (same : db.table = other.table) :
    statement = statement' := by
  rcases Nat.lt_trichotomy index index' with below | rfl | above
  · exact absurd ((stops_congr same _ _).mp breaks.stops) (breaks'.before _ _ below breaks.here)
  · exact Option.some.inj (breaks.here.symm.trans breaks'.here)
  · exact absurd ((stops_congr same _ _).mpr breaks'.stops) (breaks.before _ _ above breaks'.here)

theorem execute_eq_none : execute now membership status statement state = none ↔
    statement = .update ∧ state.2.table = none := by
  obtain ⟨count, db⟩ := state
  cases statement with
  | update => cases held : db.table <;> simp [execute, held]
  | _ => simp [execute]

/-- No statement makes or drops the table. -/
theorem execute_table (done : execute now membership status statement state = some state') :
    state'.2.table = none ↔ state.2.table = none := by
  obtain ⟨count, db⟩ := state
  cases statement with
  | update =>
    cases held : db.table with
    | none => simp [execute, held] at done
    | some t =>
      simp only [execute, held, Option.bind_eq_bind, Option.bind_some, Option.pure_def,
        Option.some.injEq] at done
      simp [← done]
  | load address =>
    simp only [execute, Option.some.injEq] at done
    subst done
    dsimp only
    split <;> rfl
  | _ =>
    simp only [execute, Option.some.injEq] at done
    subst done
    rfl

/-- The first statement of a sequence stops it, or it is carried out and the others follow. -/
theorem runStatements_cons (now : Instant) (membership : Membership) (status : Status)
    (fails : Nat → Bool) (first : Nat) (statement : Statement) (rest : List Statement)
    (state : Nat × Database) :
    (Stops fails state.2 first statement ∧
      runStatements now membership status fails first (statement :: rest) state =
        .error statement.activity) ∨
    ¬ Stops fails state.2 first statement ∧ ∃ next, (next.2.table = none ↔ state.2.table = none) ∧
      runStatements now membership status fails first (statement :: rest) state =
        runStatements now membership status fails (first + 1) rest next := by
  by_cases failed : fails first = true
  · exact .inl ⟨.inl failed, by rw [runStatements, if_pos failed]⟩
  · rw [runStatements, if_neg failed]
    cases done : execute now membership status statement state with
    | none => exact .inl ⟨.inr (execute_eq_none.mp done), rfl⟩
    | some next =>
      refine .inr ⟨?_, next, execute_table done, rfl⟩
      rintro (fault | futile)
      · exact failed fault
      · cases done.symm.trans (execute_eq_none.mpr futile)

/-- A sequence of statements ends with the first that stops it, or none does. -/
theorem runStatements_ends (now : Instant) (membership : Membership) (status : Status)
    (fails : Nat → Bool) (sequence : List Statement) (first : Nat) (state : Nat × Database) :
    (∃ index statement, Breaks (fun index => fails (first + index)) state.2 sequence index statement ∧
      runStatements now membership status fails first sequence state = .error statement.activity) ∨
    (∀ (index : Nat) statement, sequence[index]? = some statement →
        ¬ Stops (fun index => fails (first + index)) state.2 index statement) ∧
      ∃ state', runStatements now membership status fails first sequence state = .ok state' := by
  induction sequence generalizing first state with
  | nil => exact .inr ⟨nofun, state, rfl⟩
  | cons head rest ih =>
    rcases runStatements_cons now membership status fails first head rest state with ⟨stops, eq⟩ | ⟨passes, next, table, run⟩
    · exact .inl ⟨0, head, ⟨rfl, stops, nofun⟩, eq⟩
    -- the others count their places from the next one on
    have shifted (index : Nat) (statement : Statement) :
        Stops (fun index => fails (first + 1 + index)) next.2 index statement ↔
          Stops (fun index => fails (first + index)) state.2 (index + 1) statement := by
      rw [Stops, Stops, table, Nat.add_assoc, Nat.add_comm 1]
    rcases ih (first + 1) next with ⟨index, statement, breaks, eq⟩ | ⟨unbroken, last, eq⟩
    · refine .inl ⟨index + 1, statement, ⟨breaks.here, (shifted _ _).mp breaks.stops, ?_⟩, run.trans eq⟩
      rintro (_ | earlier) other below found
      · cases found
        exact passes
      · exact fun stops => breaks.before earlier other (Nat.lt_of_succ_lt_succ below) found
          ((shifted _ _).mpr stops)
    · refine .inr ⟨?_, last, run.trans eq⟩
      rintro (_ | index) statement found
      · cases found
        exact passes
      · exact fun stops => unbroken index statement found ((shifted _ _).mpr stops)

/-- What an update comes to: the fault of the first statement that stops it, or a new table. -/
theorem setStatusFailing_ends (db : Database) (fails : Nat → Bool) (now : Instant) (listed : List String)
    (membership : Membership) (status : Status) :
    (∃ index statement, Breaks fails db (statements listed) index statement ∧
      db.setStatusFailing fails now listed membership status =
        (.error (.database statement.activity), db.touched)) ∨
    (∀ (index : Nat) statement, (statements listed)[index]? = some statement →
        ¬ Stops fails db index statement) ∧
      ∃ t, db.table = some t ∧ db.setStatusFailing fails now listed membership status =
        (.ok (t.update now listed membership status).1,
          { db with table := some (t.update now listed membership status).2, window := [] }) := by
  have ends := runStatements_ends now membership status fails (statements listed) 0 (0, db)
  simp only [Nat.zero_add] at ends
  rcases ends with ⟨index, statement, breaks, eq⟩ | ⟨passes, ⟨count, db'⟩, eq⟩
  · exact .inl ⟨index, statement, breaks, by rw [setStatusFailing, eq]⟩
  · cases held : db.table with
    | none =>
      have updates : Statement.update ∈ statements listed := by simp [statements]
      obtain ⟨index, found⟩ := List.getElem?_of_mem updates
      exact absurd (.inr ⟨rfl, held⟩) (passes index .update found)
    | some t =>
      refine .inr ⟨passes, t, rfl, ?_⟩
      rcases setStatusFailing_cases held fails now listed membership status with ⟨activity, failed⟩ | done
      · rw [setStatusFailing, eq] at failed
        cases failed
      · exact done

/-- An update of a table that is there, of which no statement fails. -/
theorem setStatus_of_table (held : db.table = some t) :
    db.setStatus now listed membership status = (.ok (t.update now listed membership status).1,
      { db with table := some (t.update now listed membership status).2, window := [] }) := by
  rcases db.setStatusFailing_ends (fun _ => false) now listed membership status with
    ⟨index, statement, breaks, -⟩ | ⟨-, t', held', eq⟩
  · rcases breaks.stops with fault | ⟨-, gone⟩
    · cases fault
    · cases held.symm.trans gone
  · cases held.symm.trans held'
    exact eq

/-! ## Connections to one table -/

/-- Two connections to the same servers, whatever each of them remembers. -/
structure Matches (db other : Database) : Prop where
  table : db.table = other.table
  durable : db.durable = other.durable

/-- What a connection remembers makes no difference to an update. -/
theorem Matches.setStatusFailing (same : db.Matches other) (fails : Nat → Bool) (now : Instant)
    (listed : List String) (membership : Membership) (status : Status) :
    (db.setStatusFailing fails now listed membership status).1 =
        (other.setStatusFailing fails now listed membership status).1 ∧
      (db.setStatusFailing fails now listed membership status).2.Matches
        (other.setStatusFailing fails now listed membership status).2 := by
  rcases db.setStatusFailing_ends fails now listed membership status with
      ⟨index, statement, breaks, eq⟩ | ⟨passes, t, held, eq⟩ <;>
    rcases other.setStatusFailing_ends fails now listed membership status with
      ⟨index', statement', breaks', eq'⟩ | ⟨passes', t', held', eq'⟩
  · rw [eq, eq', breaks.unique breaks' same.table]
    exact ⟨rfl, same.table, same.durable⟩
  · exact absurd ((stops_congr same.table _ _).mp breaks.stops) (passes' index statement breaks.here)
  · exact absurd ((stops_congr same.table _ _).mpr breaks'.stops) (passes index' statement' breaks'.here)
  · cases (held.symm.trans same.table).trans held'
    rw [eq, eq']
    exact ⟨rfl, rfl, same.durable⟩

/-! ## What may happen later -/

/-- Something that happens to a database: a call, of which a status update may fail on the way, or what
others do to it. -/
inductive Incident where
  | call (now : Instant) (command : Command)
  | update (fails : Nat → Bool) (now : Instant) (listed : List String) (membership : Membership)
      (status : Status)
  | lose
  | reopen
  | insert (id name address status createdAt updatedAt : Option Cell)

def Incident.happen (db : Database) : Incident → Database
  | .call now command => (db.run now command).2
  | .update fails now listed membership status =>
    (db.setStatusFailing fails now listed membership status).2
  | .lose => db.dropTable
  | .reopen => db.reopen
  | .insert id name address status createdAt updatedAt =>
    (db.insertRow id name address status createdAt updatedAt).getD db

/-- What has become of a database. -/
def after (db : Database) (incidents : List Incident) : Database := incidents.foldl Incident.happen db

/-- One of the statements of an update fails. -/
def breaksOff (fails : Nat → Bool) (listed : List String) : Bool :=
  (List.range (statements listed).length).any fails

theorem setStatusFailing_of_table (held : db.table = some t) (fails : Nat → Bool) (now : Instant)
    (listed : List String) (membership : Membership) (status : Status) :
    (db.setStatusFailing fails now listed membership status).2.table =
        some (if breaksOff fails listed then t else (t.update now listed membership status).2) := by
  rcases db.setStatusFailing_ends fails now listed membership status with
    ⟨index, statement, breaks, eq⟩ | ⟨passes, t', held', eq⟩
  · have within : index < (statements listed).length := (List.getElem?_eq_some_iff.mp breaks.here).1
    have failed : breaksOff fails listed = true := by
      rcases breaks.stops with failed | ⟨-, gone⟩
      · exact List.any_eq_true.mpr ⟨index, List.mem_range.mpr within, failed⟩
      · cases held.symm.trans gone
    rw [eq, if_pos failed]
    exact held
  · have passed : ¬ breaksOff fails listed = true := by
      intro failed
      obtain ⟨index, member, failed⟩ := List.any_eq_true.mp failed
      have within := List.mem_range.mp member
      exact passes index _ (List.getElem?_eq_getElem within) (.inl failed)
    cases held.symm.trans held'
    rw [eq, if_neg passed]

/-- An update of a table that is gone leaves it gone. -/
theorem setStatusFailing_of_none (gone : db.table = none) (fails : Nat → Bool) (now : Instant)
    (listed : List String) (membership : Membership) (status : Status) :
    (db.setStatusFailing fails now listed membership status).2.table = none := by
  rcases db.setStatusFailing_ends fails now listed membership status with
    ⟨_, _, -, eq⟩ | ⟨-, t, held, -⟩
  · rw [eq]
    exact gone
  · cases held.symm.trans gone

/-- A bulk status update, with what it is given. -/
structure StatusUpdate where
  now : Instant
  listed : List String
  membership : Membership
  status : Status

/-- The status update that an incident carries out to its end, if the table is there. -/
def Incident.completed? : Incident → Option StatusUpdate
  | .call now (.setStatus listed membership status) => some ⟨now, listed, membership, status⟩
  | .update fails now listed membership status =>
    if breaksOff fails listed then none else some ⟨now, listed, membership, status⟩
  | _ => none

/-- Everything that an incident can make of the table. -/
inductive Incident.Effect (db : Database) : Incident → Option Table → Prop where
  | kept {incident : Incident} (idle : incident.completed? = none ∨ db.table = none) :
      Effect db incident db.table
  | created {t : Table} (held : db.table = some t) (now : Instant) (name address : String) (status : Status)
      (left : t.lastId ≠ Int64.maxValue) (fresh : address ∉ t.addresses) :
      Effect db (.call now (.create name address status)) (some (t.add (t.newRow now name address status)))
  | updated {incident : Incident} {t : Table} {u : StatusUpdate} (held : db.table = some t)
      (completed : incident.completed? = some u) :
      Effect db incident (some (t.update u.now u.listed u.membership u.status).2)
  | lost : Effect db .lose none
  /-- A table that was gone, or was in no file, is made anew. -/
  | renewed (gone : db.durable = false ∨ db.table = none) : Effect db .reopen (some {})
  | inserted {t : Table} (held : db.table = some t) (id name address status createdAt updatedAt : Option Cell)
      (row : Row) (fresh : row.address ∉ t.addresses) (next : ∀ other ∈ t.rows, other.id ≠ row.id) :
      Effect db (.insert id name address status createdAt updatedAt) (some (t.add row))

theorem update_effect (db : Database) (fails : Nat → Bool) (now : Instant) (listed : List String)
    (membership : Membership) (status : Status) :
    (Incident.update fails now listed membership status).Effect db
      (db.setStatusFailing fails now listed membership status).2.table := by
  cases held : db.table with
  | none =>
    rw [setStatusFailing_of_none held, ← held]
    exact .kept (.inr held)
  | some t =>
    rw [setStatusFailing_of_table held]
    by_cases failed : breaksOff fails listed = true
    · rw [if_pos failed, ← held]
      exact .kept (.inl (if_pos failed))
    · rw [if_neg failed]
      exact .updated held (u := ⟨now, listed, membership, status⟩) (if_neg failed)

/-- **An incident does one of these things to the table.** -/
theorem happen_effect (db : Database) (incident : Incident) :
    incident.Effect db (incident.happen db).table := by
  have kept (idle : incident.completed? = none) {table : Option Table} (same : table = db.table) :
      incident.Effect db table := same ▸ .kept (.inl idle)
  cases incident with
  | call now command =>
    cases command with
    | create name address status =>
      cases held : db.table with
      | none => exact kept rfl (by simp only [Incident.happen, run, create, held, touched])
      | some t =>
        rcases t.create_cases now name address status with ⟨eq, -⟩ | ⟨eq, -⟩ | ⟨eq, fresh⟩
        · exact kept rfl (by simp only [Incident.happen, run, create, held, eq])
        · exact kept rfl (by simp only [Incident.happen, run, create, held, eq])
        · simp only [Incident.happen, run, create, held, eq]
          exact .created held now name address status (Table.room_of_create eq) fresh
    | find address =>
      refine kept rfl ?_
      simp only [Incident.happen, run, find]
      split <;> rfl
    | list =>
      refine kept rfl ?_
      simp only [Incident.happen, run, list]
      split <;> rfl
    | setStatus listed membership status =>
      cases held : db.table with
      | none =>
        have gone := setStatusFailing_of_none held (fun _ => false) now listed membership status
        have same : (Incident.happen db (.call now (.setStatus listed membership status))).table = db.table :=
          gone.trans held.symm
        exact same ▸ .kept (.inr held)
      | some t =>
        simp only [Incident.happen, run, setStatus_of_table held]
        exact .updated held (u := ⟨now, listed, membership, status⟩) rfl
    | shutdown => exact kept rfl rfl
  | update fails now listed membership status => exact db.update_effect fails now listed membership status
  | lose => exact .lost
  | reopen =>
    simp only [Incident.happen, reopen]
    cases durable : db.durable with
    | false => exact .renewed (.inl durable)
    | true =>
      cases held : db.table with
      | none => exact .renewed (.inr held)
      | some t => exact kept rfl held.symm
  | insert id name address status createdAt updatedAt =>
    simp only [Incident.happen, insertRow]
    cases held : db.table with
    | none => exact kept rfl rfl
    | some t =>
      simp only [Option.bind_eq_bind, Option.bind_some]
      rcases Table.addForeign_cases with eq | ⟨row, fresh, next, eq⟩
      · rw [eq]
        exact kept rfl rfl
      · rw [eq]
        exact .inserted held id name address status createdAt updatedAt row fresh next

theorem Matches.happen (same : db.Matches other) (incident : Incident) :
    (incident.happen db).Matches (incident.happen other) := by
  obtain ⟨table, durable⟩ := same
  cases incident with
  | call now command =>
    cases command with
    | create name address status =>
      simp only [Incident.happen, run, create, table]
      cases held : other.table with
      | none => exact ⟨table, durable⟩
      | some t =>
        dsimp only
        cases t.create now name address status with
        | error => exact ⟨table, durable⟩
        | ok => exact ⟨rfl, durable⟩
    | find address =>
      simp only [Incident.happen, run, find, table]
      cases held : other.table with
      | none => exact ⟨table, durable⟩
      | some t => exact ⟨table, durable⟩
    | list =>
      simp only [Incident.happen, run, list, table]
      cases held : other.table with
      | none => exact ⟨table, durable⟩
      | some t => exact ⟨table, durable⟩
    | setStatus listed membership status =>
      exact (Matches.setStatusFailing ⟨table, durable⟩ _ now listed membership status).2
    | shutdown => exact ⟨table, durable⟩
  | update fails now listed membership status =>
    exact (Matches.setStatusFailing ⟨table, durable⟩ fails now listed membership status).2
  | lose => exact ⟨rfl, durable⟩
  | reopen => exact ⟨by simp only [Incident.happen, reopen, table, durable], durable⟩
  | insert id name address status createdAt updatedAt =>
    simp only [Incident.happen, insertRow, table]
    cases held : other.table with
    | none => exact ⟨table, durable⟩
    | some t =>
      simp only [Option.bind_eq_bind, Option.bind_some]
      cases t.addForeign id name address status createdAt updatedAt with
      | none => exact ⟨table, durable⟩
      | some t' => exact ⟨rfl, durable⟩

theorem Matches.after (same : db.Matches other) (incidents : List Incident) :
    (db.after incidents).Matches (other.after incidents) := by
  induction incidents generalizing db other with
  | nil => exact same
  | cons incident rest ih => exact ih (same.happen incident)

/-- **A failed update leaves no trace.** If one of its statements fails, an update returns the fault of the
first that did, or of writing to a table that is gone, and the table is as it was. Whatever the temporary table
has been left with, and whatever happens next, any later update gives the same answer and the same table as
if the failed one had not been made. -/
theorem failed_update_leaves_no_trace (interrupted : ∃ index < (statements listed).length, fails index = true)
    (failed : db.setStatusFailing fails now listed membership status = (answer, db')) :
    (∃ index statement, Breaks fails db (statements listed) index statement ∧
        answer = .error (.database statement.activity)) ∧
      db'.table = db.table ∧
      ∀ (leftover : List String) (incidents : List Incident) (fails' : Nat → Bool) (later : Instant)
        (listed' : List String) (membership' : Membership) (status' : Status),
        let left := ({ db' with window := leftover } : Database).after incidents
        let spared := db.after incidents
        (left.setStatusFailing fails' later listed' membership' status').1 =
            (spared.setStatusFailing fails' later listed' membership' status').1 ∧
          (left.setStatusFailing fails' later listed' membership' status').2.table =
            (spared.setStatusFailing fails' later listed' membership' status').2.table := by
  rcases db.setStatusFailing_ends fails now listed membership status with
    ⟨index, statement, breaks, eq⟩ | ⟨passes, -⟩
  · cases failed.symm.trans eq
    refine ⟨⟨index, statement, breaks, rfl⟩, rfl, fun leftover incidents fails' later listed' m' s' => ?_⟩
    have same : ({ db.touched with window := leftover } : Database).Matches db := ⟨rfl, rfl⟩
    obtain ⟨answers, tables⟩ := (same.after incidents).setStatusFailing fails' later listed' m' s'
    exact ⟨answers, tables.table⟩
  · obtain ⟨index, within, fault⟩ := interrupted
    exact absurd (.inl fault) (passes index _ (List.getElem?_eq_getElem within))

/-! ## An update that fails when the addresses are loaded -/

/-- Two servers that are down. -/
def pair : Database where
  table := some ⟨[⟨1, "a", "a", .integer 0, "", ""⟩, ⟨2, "b", "b", .integer 0, "", ""⟩], 2⟩

/-- An update for one server fails when its rows are to be written, and leaves the address of that server in the
temporary table. The next update, for the other server, takes only that one up. -/
theorem unwritten_address_is_forgotten :
    (∃ index < (statements ["b"]).length, (index == 4) = true) ∧
    ∃ failed, pair.setStatusFailing (· == 4) .epoch ["b"] .inside .up =
        (.error (.database .updateStatus), failed) ∧ failed.table = pair.table ∧
      (({ failed with window := ["b"] } : Database).setStatus .epoch ["a"] .inside .up).1 = .ok 1 ∧
      ∃ t, (({ failed with window := ["b"] } : Database).setStatus .epoch ["a"] .inside .up).2.table = some t ∧
        t.rows.map Row.status = [.integer 1, .integer 0] := by
  have interrupted : ∃ index < (statements ["b"]).length, (index == 4) = true := ⟨4, by decide, rfl⟩
  have failed : pair.setStatusFailing (· == 4) .epoch ["b"] .inside .up =
      (.error (.database .updateStatus), _) := rfl
  obtain ⟨-, kept, later⟩ := failed_update_leaves_no_trace interrupted failed
  obtain ⟨answers, tables⟩ := later ["b"] [] (fun _ => false) .epoch ["a"] .inside .up
  refine ⟨interrupted, _, failed, kept, answers.trans rfl, _, tables.trans rfl, rfl⟩

end Heartbeat.Store.Database
