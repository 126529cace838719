import Heartbeat.Backend
/-!
# Resolving addresses

The record of an address is looked up in the cache, then in the store, and created if the store has
none. Whoever loses the race to create a record takes the winner's. The cache only saves work: what
it cannot give, for whatever reason, the store gives.
-/
namespace Heartbeat

/-- Where a record came from. -/
inductive Resolution where
  | cache
  | store
  | created
  /-- Somebody else created it in the meantime. -/
  | createdElsewhere
  deriving DecidableEq, Repr

structure Resolved where
  record : Record
  resolution : Resolution
  deriving DecidableEq, Repr

/-- Why an address has no record. -/
inductive ResolveFault where
  | store (fault : Store.Fault)
  /-- It could not be created because it was there, and then it was not there. -/
  | vanished (address : String)
  deriving DecidableEq, Repr

def ResolveFault.message : ResolveFault → String
  | .store fault => fault.message
  | .vanished address =>
    "server " ++ address ++ " conflicted on create but could not be re-fetched"

/-- The record that an answer of the cache holds, if it holds one. -/
def cachedRecord? : Except Cache.Fault (Option String) → Option Record
  | .ok (some text) => Record.decodeCached? text
  | _ => none

/-- How far a resolution has come: which operation is next. -/
inductive ResolvePhase where
  | lookUp
  | find
  | create
  | findAgain
  | done (result : Except ResolveFault Resolved)

namespace ResolvePhase

def afterLookUp (answer : Except Cache.Fault (Option String)) : ResolvePhase :=
  match cachedRecord? answer with
  | some record => .done (.ok ⟨record, .cache⟩)
  | none => .find

def afterFind : Except Store.Fault (Option Record) → ResolvePhase
  | .ok (some record) => .done (.ok ⟨record, .store⟩)
  | .ok none => .create
  | .error fault => .done (.error (.store fault))

def afterCreate : Except Store.Fault Record → ResolvePhase
  | .ok record => .done (.ok ⟨record, .created⟩)
  | .error (.conflict _) => .findAgain
  | .error fault => .done (.error (.store fault))

def afterFindAgain (address : String) : Except Store.Fault (Option Record) → ResolvePhase
  | .ok (some record) => .done (.ok ⟨record, .createdElsewhere⟩)
  | .ok none => .done (.error (.vanished address))
  | .error fault => .done (.error (.store fault))

def step (b : Backend σ) (address : String) : ResolvePhase → σ → ResolvePhase × σ
  | .lookUp, s =>
    let (answer, s) := b.cacheGet (cacheKey address) s
    (afterLookUp answer, s)
  | .find, s =>
    let (answer, s) := b.find address s
    (afterFind answer, s)
  | .create, s =>
    let (answer, s) := b.create address address .up s
    (afterCreate answer, s)
  | .findAgain, s =>
    let (answer, s) := b.find address s
    (afterFindAgain address answer, s)
  | .done result, s => (.done result, s)

def advance (b : Backend σ) (address : String) : Nat → ResolvePhase → σ → ResolvePhase × σ
  | 0, phase, s => (phase, s)
  | n + 1, phase, s =>
    let (phase, s) := step b address phase s
    advance b address n phase s

/-- What a resolution has found; one that is under way has found nothing. -/
def result (address : String) : ResolvePhase → Except ResolveFault Resolved
  | .done result => result
  | _ => .error (.vanished address)

end ResolvePhase

/-- Resolves an address with nothing in between. A resolution has at most four operations. -/
def resolve (b : Backend σ) (address : String) (s : σ) : Except ResolveFault Resolved × σ :=
  let (phase, s) := ResolvePhase.advance b address 4 .lookUp s
  (phase.result address, s)

/-- Writes a record into the cache under the key of its address. -/
def cacheRecord (b : Backend σ) (record : Record) (s : σ) : Except Cache.Fault Unit × σ :=
  b.cacheSet (cacheKey record.address) record.encodeCached s

/-! ## Several resolutions at once -/

abbrev Resolutions := List (String × ResolvePhase)

/-- Every resolution takes one step, in turn. -/
def Resolutions.round (b : Backend σ) : Resolutions → σ → Resolutions × σ
  | [], s => ([], s)
  | (address, phase) :: rest, s =>
    let (phase, s) := phase.step b address s
    let (rest, s) := Resolutions.round b rest s
    ((address, phase) :: rest, s)

def Resolutions.rounds (b : Backend σ) : Nat → Resolutions → σ → Resolutions × σ
  | 0, tasks, s => (tasks, s)
  | n + 1, tasks, s =>
    let (tasks, s) := Resolutions.round b tasks s
    Resolutions.rounds b n tasks s

/-- Resolutions of one address that all look before any of them creates. -/
def race (b : Backend σ) (racers : Nat) (address : String) (s : σ) :
    List (Except ResolveFault Resolved) × σ :=
  let (tasks, s) := Resolutions.rounds b 4 (List.replicate racers (address, .lookUp)) s
  (tasks.map fun (address, phase) => phase.result address, s)

end Heartbeat
