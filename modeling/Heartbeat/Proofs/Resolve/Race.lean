import Mathlib.Data.List.Count
import Mathlib.Logic.Function.Basic
import Mathlib.Logic.Relation
import Heartbeat.Proofs.Resolve.Step

/-! Resolutions that race for one store. Any number of calls, in any number of daemons, take their
operations in any order. The invariant ties what a call knows to the rows: a call that met a conflict
knows that the row is there, a call that has returned holds a row's columns, and an address has one more
row than at the start for each call that created it. A table without repeated addresses then leaves room
for one creation. -/
namespace Heartbeat
open Store (Table)
open Time (Instant)

/-- The daemon over the store as the others left it. -/
def Services.atStore (s : Services) (table : Option Table) : Services :=
  { s with database := { s.database with table } }

/-- The store does what it is asked, and the clock stays in the years that a column can hold. -/
structure Services.Orderly (s : Services) : Prop where
  quiet : s.disturbances = []
  plain : ∀ n, (s.clock n).HasPlainYear

/-- A call for an address in one of the daemons. -/
structure Call where
  daemon : Nat
  address : String
  phase : ResolvePhase := .lookUp

namespace Call

/-- The call has created the record. -/
def created (call : Call) : Bool :=
  match call.phase with
  | .done (.ok ⟨_, .created⟩) => true
  | _ => false

/-- What the call has come to know is true of the table. -/
def Backed (t : Table) (call : Call) : Prop :=
  match call.phase with
  | .findAgain => call.address ∈ t.addresses
  | .done (.ok resolved) =>
    resolved.resolution ≠ .cache ∧
      ∃ row ∈ t.rows, row.address = call.address ∧ resolved.record.id = row.id ∧
        resolved.record.name = row.name ∧
        Instant.readStrict row.createdAt = .ok resolved.record.createdAt
  | .done (.error _) => False
  | _ => True

/-- What is true of a table stays true when rows are added. -/
theorem Backed.mono {t t' : Table} {call : Call} (backed : call.Backed t)
    (grown : ∀ row ∈ t.rows, row ∈ t'.rows) : call.Backed t' := by
  unfold Backed at backed ⊢
  split <;> simp_all only
  · obtain ⟨row, member, named⟩ := Table.mem_addresses.mp backed
    exact Table.mem_addresses.mpr ⟨row, grown row member, named⟩
  · obtain ⟨resolution, row, member, columns⟩ := backed
    exact ⟨resolution, row, grown row member, columns⟩

end Call

/-- Daemons that share a store, and the calls under way in them. -/
structure Cluster where
  table : Option Table
  daemons : Nat → Services
  calls : List Call

namespace Cluster

/-- What a call has before it: its own daemon, over the shared store. -/
def sees (c : Cluster) (call : Call) : Services := (c.daemons call.daemon).atStore c.table

/-- The call at a place has its next operation done. -/
def advance (c : Cluster) (i : Nat) (call : Call) : Cluster :=
  let (phase, s) := call.phase.step Services.backend call.address (c.sees call)
  { table := s.database.table
    daemons := Function.update c.daemons call.daemon s
    calls := c.calls.set i { call with phase } }

/-- How many calls have created the record of an address. -/
def creations (c : Cluster) (address : String) : Nat :=
  c.calls.countP fun call => call.address = address ∧ call.created

/-- One operation of one call, or anything else inside a daemon. No look-up is answered by the cache,
and a store operation fails only with a conflict on an address that is taken. -/
inductive Step : Cluster → Cluster → Prop where
  | resolve {c : Cluster} {i : Nat} {call : Call} (found : c.calls[i]? = some call)
      (missed : call.phase = .lookUp →
        cachedRecord? ((c.sees call).cacheGet (cacheKey call.address)).1 = none)
      (served : call.phase.Served (c.sees call) call.address) : Step c (c.advance i call)
  | elsewhere {c : Cluster} (daemon : Nat) {s : Services} (orderly : s.Orderly) :
      Step c { c with daemons := Function.update c.daemons daemon s }

/-- The invariant of the race: `t₀` is the table of the start and `t` is the table now. -/
structure Sound (t₀ t : Table) (c : Cluster) : Prop where
  held : c.table = some t
  orderly : ∀ daemon, (c.daemons daemon).Orderly
  unique : t.addresses.Nodup
  backed : ∀ call ∈ c.calls, call.Backed t
  counted : ∀ address, t.addresses.count address = t₀.addresses.count address + c.creations address

variable {c c' : Cluster} {t₀ t t' : Table} {call : Call} {phase : ResolvePhase} {i : Nat}

/-- The effect of one move on the table and on its own call: rows are only added, addresses stay unique,
the call's new knowledge is true, and an address gains a row exactly if the call created it. -/
private theorem move_effect {s : Services} (orderly : s.Orderly) (unique : t.addresses.Nodup)
    (missed : call.phase = .lookUp → cachedRecord? (s.cacheGet (cacheKey call.address)).1 = none)
    (backed : call.Backed t) (move : call.phase.Move s call.address t phase t') :
    (∀ row ∈ t.rows, row ∈ t'.rows) ∧ t'.addresses.Nodup ∧ { call with phase }.Backed t' ∧
      ∀ address, t'.addresses.count address + (if call.address = address ∧ call.created then 1 else 0) =
        t.addresses.count address +
          if call.address = address ∧ { call with phase }.created then 1 else 0 := by
  obtain ⟨daemon, name, before⟩ := call
  simp only at missed move
  cases move with
  | hit kept => simp [missed rfl] at kept
  | miss => exact ⟨fun _ => id, unique, trivial, by simp [Call.created]⟩
  | found member named spelled =>
    obtain ⟨id_eq, name_eq, -, created_eq⟩ := Table.columns_of_record spelled
    exact ⟨fun _ => id, unique, ⟨by rintro ⟨⟩, _, member, named, id_eq, name_eq, created_eq⟩,
      by simp [Call.created]⟩
  | absent => exact ⟨fun _ => id, unique, trivial, by simp [Call.created]⟩
  | created read fresh =>
    subst read
    refine ⟨fun row member => Table.mem_add.mpr (.inr member), Table.nodup_add unique fresh,
      ⟨by rintro ⟨⟩, _, Table.mem_add.mpr (.inl rfl), rfl, rfl, rfl, ?_⟩, fun address => ?_⟩
    · exact Instant.readStrict_renderOffset (orderly.plain _)
    · rw [Table.addresses_add.count_eq, List.count_cons]
      simp [Call.created, Table.newRow]
  | conflict taken => exact ⟨fun _ => id, unique, taken, by simp [Call.created]⟩
  | foundAgain member named spelled =>
    obtain ⟨id_eq, name_eq, -, created_eq⟩ := Table.columns_of_record spelled
    exact ⟨fun _ => id, unique, ⟨by rintro ⟨⟩, _, member, named, id_eq, name_eq, created_eq⟩,
      by simp [Call.created]⟩
  | vanished fresh => exact absurd backed fresh
  | rest result => exact ⟨fun _ => id, unique, backed, fun _ => rfl⟩

theorem Sound.step (sound : Sound t₀ t c) (step : Step c c') : ∃ t', Sound t₀ t' c' := by
  cases step with
  | elsewhere daemon orderly =>
    refine ⟨t, sound.held, fun other => ?_, sound.unique, sound.backed, sound.counted⟩
    simp only [Function.update_apply]
    split
    · exact orderly
    · exact sound.orderly other
  | @resolve i call found missed served =>
    have seen : (c.sees call).Orderly :=
      ⟨(sound.orderly call.daemon).quiet, (sound.orderly call.daemon).plain⟩
    obtain ⟨t', readings, move, after⟩ :=
      ResolvePhase.step_served seen.quiet (show _ = some t from sound.held) served
    obtain ⟨grown, unique, backed, counted⟩ := move_effect seen sound.unique missed
      (sound.backed call (List.mem_of_getElem? found)) move
    obtain ⟨inside, rfl⟩ := List.getElem?_eq_some_iff.mp found
    refine ⟨t', ?_, fun other => ?_, unique, fun other member => ?_, fun address => ?_⟩
    · simp only [advance, after, Services.withTable]
    · simp only [advance, after, Function.update_apply]
      split
      · exact ⟨seen.quiet, seen.plain⟩
      · exact sound.orderly other
    · rcases List.mem_or_eq_of_mem_set member with old | rfl
      · exact (sound.backed other old).mono grown
      · exact backed
    · have before := sound.counted address
      have here := counted address
      have some_created : (if c.calls[i].address = address ∧ c.calls[i].created then 1 else 0) ≤
          c.creations address := by
        split
        · rename_i both
          exact List.countP_pos_iff.mpr ⟨_, List.getElem_mem inside, by simpa using both⟩
        · exact Nat.zero_le _
      simp only [creations, advance] at before some_created ⊢
      rw [List.countP_set (h := inside)]
      simp only [decide_eq_true_eq] at *
      omega

/-- The start of a race: nobody has looked yet, and the table repeats no address. -/
structure Start (t₀ : Table) (c : Cluster) : Prop where
  held : c.table = some t₀
  orderly : ∀ daemon, (c.daemons daemon).Orderly
  unique : t₀.addresses.Nodup
  waiting : ∀ call ∈ c.calls, call.phase = .lookUp

theorem Start.sound (start : Start t₀ c) : Sound t₀ t₀ c where
  held := start.held
  orderly := start.orderly
  unique := start.unique
  backed call member := by simp [Call.Backed, start.waiting call member]
  counted address := by
    have none_created : c.creations address = 0 :=
      List.countP_eq_zero.mpr fun call member => by
        simp [Call.created, start.waiting call member]
    omega

theorem Sound.run (sound : Sound t₀ t c) (run : Relation.ReflTransGen Step c c') :
    ∃ t', Sound t₀ t' c' := by
  induction run with
  | refl => exact ⟨t, sound⟩
  | tail _ last ih =>
    obtain ⟨middle, sound⟩ := ih
    exact sound.step last

/-- No step changes which addresses are asked for. -/
theorem Step.addresses (step : Step c c') : c'.calls.map Call.address = c.calls.map Call.address := by
  cases step with
  | elsewhere => rfl
  | @resolve i call found =>
    obtain ⟨inside, rfl⟩ := List.getElem?_eq_some_iff.mp found
    simp only [advance, List.map_set]
    rw [← List.getElem_map Call.address (h := by simpa using inside), List.set_getElem_self]

theorem addresses_of_run (run : Relation.ReflTransGen Step c c') :
    c'.calls.map Call.address = c.calls.map Call.address := by
  induction run with
  | refl => rfl
  | tail _ last ih => exact last.addresses.trans ih

/-- All calls have returned. -/
def Over (c : Cluster) : Prop := ∀ call ∈ c.calls, ∃ result, call.phase = .done result

/-- In a sound state a call that has returned holds the columns of a row. -/
theorem Sound.returned (sound : Sound t₀ t c) (member : call ∈ c.calls)
    {result : Except ResolveFault Resolved} (done : call.phase = .done result) :
    ∃ resolved, result = .ok resolved ∧ resolved.resolution ≠ .cache ∧
      ∃ row ∈ t.rows, row.address = call.address ∧ resolved.record.id = row.id ∧
        resolved.record.name = row.name ∧
        Instant.readStrict row.createdAt = .ok resolved.record.createdAt := by
  have backed := sound.backed call member
  simp only [Call.Backed, done] at backed
  cases result with
  | error fault => exact absurd backed id
  | ok resolved => exact ⟨resolved, rfl, backed⟩

/-- **The race has one winner.** Whatever the order of the operations, no address ever has two rows, no
call ends in a fault, and all that return for an address return the columns of its row. Once all have
returned, an address that was missing at the start was created by exactly one call, and the others had
it from the store. -/
theorem race_has_one_winner {start finish : Cluster} (begun : Start t₀ start)
    (run : Relation.ReflTransGen Step start finish) :
    ∃ t, finish.table = some t ∧ t.addresses.Nodup ∧
      (∀ call ∈ finish.calls, ∀ fault, call.phase ≠ .done (.error fault)) ∧
      (∀ call ∈ finish.calls, ∀ resolved, call.phase = .done (.ok resolved) →
        ∃ row ∈ t.rows, row.address = call.address ∧ resolved.record.id = row.id ∧
          resolved.record.name = row.name ∧
          Instant.readStrict row.createdAt = .ok resolved.record.createdAt) ∧
      (∀ call ∈ finish.calls, ∀ other ∈ finish.calls, other.address = call.address →
        ∀ resolved, call.phase = .done (.ok resolved) →
        ∀ rival, other.phase = .done (.ok rival) →
          rival.record.id = resolved.record.id ∧ rival.record.name = resolved.record.name ∧
            rival.record.createdAt = resolved.record.createdAt) ∧
      (finish.Over → ∀ address ∈ start.calls.map Call.address,
        finish.creations address = (if address ∈ t₀.addresses then 0 else 1) ∧
        ∀ call ∈ finish.calls, call.address = address → ∃ resolved,
          call.phase = .done (.ok resolved) ∧
            (call.created ∨ resolved.resolution = .store ∨
              resolved.resolution = .createdElsewhere)) := by
  obtain ⟨t, sound⟩ := begun.sound.run run
  refine ⟨t, sound.held, sound.unique, ?_, ?_, ?_, ?_⟩
  · intro call member fault done
    obtain ⟨_, ok, -⟩ := sound.returned member done
    cases ok
  · intro call member resolved done
    obtain ⟨_, ok, -, row⟩ := sound.returned member done
    cases ok
    exact row
  · intro call member other present same resolved done rival ended
    obtain ⟨_, ok, -, row, inside, named, id_eq, name_eq, created_eq⟩ := sound.returned member done
    cases ok
    obtain ⟨_, ok, -, row', inside', named', id_eq', name_eq', created_eq'⟩ :=
      sound.returned present ended
    cases ok
    -- both hold the columns of a row of the address, and there is only one
    obtain rfl := Table.eq_of_address sound.unique inside inside' (by rw [named, named', same])
    rw [created_eq] at created_eq'
    exact ⟨id_eq'.trans id_eq.symm, name_eq'.trans name_eq.symm, (Except.ok.inj created_eq').symm⟩
  · intro ended address asked
    rw [← addresses_of_run run, List.mem_map] at asked
    obtain ⟨asker, member, rfl⟩ := asked
    refine ⟨?_, fun call inside _ => ?_⟩
    · obtain ⟨_, done⟩ := ended asker member
      obtain ⟨_, -, -, row, inside, named, -⟩ := sound.returned member done
      have present : t.addresses.count asker.address = 1 :=
        List.count_eq_one_of_mem sound.unique (Table.mem_addresses.mpr ⟨row, inside, named⟩)
      have counted := sound.counted asker.address
      split
      · rename_i known
        have := List.count_eq_one_of_mem begun.unique known
        omega
      · rename_i unknown
        have := List.count_eq_zero_of_not_mem unknown
        omega
    · obtain ⟨_, done⟩ := ended call inside
      obtain ⟨resolved, rfl, uncached, -⟩ := sound.returned inside done
      refine ⟨resolved, done, ?_⟩
      obtain ⟨record, resolution⟩ := resolved
      cases resolution with
      | cache => exact absurd rfl uncached
      | store => exact .inr (.inl rfl)
      | created => exact .inl (by simp [Call.created, done])
      | createdElsewhere => exact .inr (.inr rfl)

/-! ## A race that is run -/

/-- Two daemons whose caches cannot be read, over an empty table, each with a call for one address. -/
def duel : Cluster where
  table := some {}
  daemons _ :=
    { database := {}
      cache := { ttl := 0 }
      cacheReadFails := true
      topic := { name := "signals", capacity := 1 }
      archive := .start ⟨1, 1, 1⟩ 0
      index := fun _ _ => .failed
      clock := fun _ => .epoch
      documentId := fun _ => "" }
  calls := [⟨0, "host", .lookUp⟩, ⟨1, "host", .lookUp⟩]

/-- Calls have their turns, one after another. -/
def turns (c : Cluster) : List Nat → Cluster
  | [] => c
  | i :: rest => match c.calls[i]? with
    | some call => turns (c.advance i call) rest
    | none => turns c rest

private theorem duel_start : Start {} duel where
  held := rfl
  orderly _ := ⟨rfl, fun _ => by show Instant.HasPlainYear .epoch; decide⟩
  unique := .nil
  waiting call member := by
    simp only [duel, List.mem_cons, List.not_mem_nil, or_false] at member
    rcases member with rfl | rfl <;> rfl

private theorem served_of_ok {s : Services} {address : String} {found : Option Record}
    (eq : (s.find address).1 = .ok found) (fault : Store.Fault) : (s.find address).1 ≠ .error fault := by
  rw [eq]; rintro ⟨⟩

/-- Both calls miss before either creates; the second then meets the conflict. -/
private theorem duel_run : Relation.ReflTransGen Step duel (duel.turns [0, 1, 0, 1, 0, 1, 1]) :=
  .head (.resolve (i := 0) rfl (fun _ => rfl) trivial) <|
  .head (.resolve (i := 1) rfl (fun _ => rfl) trivial) <|
  .head (.resolve (i := 0) rfl nofun (served_of_ok rfl)) <|
  .head (.resolve (i := 1) rfl nofun (served_of_ok rfl)) <|
  .head (.resolve (i := 0) rfl nofun nofun) <|
  .head (.resolve (i := 1) rfl nofun fun _ conflict => by
    cases conflict; exact ⟨rfl, _, rfl, rfl⟩) <|
  .head (.resolve (i := 1) rfl nofun (served_of_ok rfl)) .refl

theorem duel_has_one_winner : Start {} duel ∧ ∃ finish, Relation.ReflTransGen Step duel finish ∧
    finish.Over ∧ finish.creations "host" = 1 := by
  have ended : (duel.turns [0, 1, 0, 1, 0, 1, 1]).Over := by
    intro call member
    change call ∈ [_, _] at member
    simp only [List.mem_cons, List.not_mem_nil, or_false] at member
    rcases member with rfl | rfl <;> exact ⟨_, rfl⟩
  obtain ⟨t, -, -, -, -, -, settled⟩ := race_has_one_winner duel_start duel_run
  exact ⟨duel_start, _, duel_run, ended, (settled ended "host" (.head _)).1⟩

end Cluster
end Heartbeat
