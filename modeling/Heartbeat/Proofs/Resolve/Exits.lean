import Heartbeat.Resolve

/-! The eight ways a resolution ends, each with the calls that it has made until then. A resolution asks the
cache once, at the start; from there on nothing but the answers of the store decides. Stores that answer two
back-ends alike therefore lead both to one end as soon as neither cache has a record to give, whatever kept
the caches from giving one. -/
namespace Heartbeat

/-- A call to the cache or to the store. -/
inductive BackendCall where
  | cacheGet (key : String)
  | cacheSet (key value : String)
  | find (address : String)
  | create (name address : String) (status : Status)
  | setStatus (addresses : List String) (membership : Store.Membership) (status : Status)
  deriving DecidableEq, Repr

namespace Backend

variable {α σ τ : Type}

/-- An operation that is written down. -/
def noting (call : BackendCall) (operation : σ → α × σ) (p : σ × List BackendCall) :
    α × σ × List BackendCall :=
  let (answer, s) := operation p.1
  (answer, s, p.2 ++ [call])

/-- An operation that is not written down. -/
def unnoted (operation : σ → α × σ) (p : σ × List BackendCall) : α × σ × List BackendCall :=
  let (answer, s) := operation p.1
  (answer, s, p.2)

/-- The back-end with a log of the calls to its cache and its store, oldest first. -/
def logged (b : Backend σ) : Backend (σ × List BackendCall) where
  isSeen address p := b.isSeen address p.1
  addSeen address p := (b.addSeen address p.1, p.2)
  takeWindow := unnoted b.takeWindow
  cacheGet key := noting (.cacheGet key) (b.cacheGet key)
  cacheSet key value := noting (.cacheSet key value) (b.cacheSet key value)
  find address := noting (.find address) (b.find address)
  create name address status := noting (.create name address status) (b.create name address status)
  setStatus addresses membership status :=
    noting (.setStatus addresses membership status) (b.setStatus addresses membership status)
  readClock := unnoted b.readClock
  enqueue document := unnoted (b.enqueue document)
  countDocument p := (b.countDocument p.1, p.2)

@[simp]
theorem logged_cacheGet (b : Backend σ) (key : String) (p : σ × List BackendCall) :
    b.logged.cacheGet key p =
      ((b.cacheGet key p.1).1, (b.cacheGet key p.1).2, p.2 ++ [.cacheGet key]) := rfl

@[simp]
theorem logged_find (b : Backend σ) (address : String) (p : σ × List BackendCall) :
    b.logged.find address p =
      ((b.find address p.1).1, (b.find address p.1).2, p.2 ++ [.find address]) := rfl

@[simp]
theorem logged_create (b : Backend σ) (name address : String) (status : Status)
    (p : σ × List BackendCall) :
    b.logged.create name address status p =
      ((b.create name address status p.1).1, (b.create name address status p.1).2,
        p.2 ++ [.create name address status]) := rfl

/-- The back-end whose cache has one answer to everything. -/
def answering (b : Backend σ) (answer : Except Cache.Fault (Option String)) : Backend σ :=
  { b with cacheGet := fun _ s => (answer, s) }

/-- States that are related get the same answers from their stores and stay related. -/
structure StoreAlike (b : Backend σ) (c : Backend τ) (R : σ → τ → Prop) : Prop where
  find : ∀ {s u}, R s u → ∀ address,
    (b.find address s).1 = (c.find address u).1 ∧ R (b.find address s).2 (c.find address u).2
  create : ∀ {s u}, R s u → ∀ name address status,
    (b.create name address status s).1 = (c.create name address status u).1 ∧
      R (b.create name address status s).2 (c.create name address status u).2

variable {b : Backend σ} {c : Backend τ} {R : σ → τ → Prop}

/-- The answers of the cache do not matter to the store. -/
theorem storeAlike_answering (b : Backend σ) (a₁ a₂ : Except Cache.Fault (Option String)) :
    StoreAlike (b.answering a₁) (b.answering a₂) Eq where
  find same address := by subst same; exact ⟨rfl, rfl⟩
  create same name address status := by subst same; exact ⟨rfl, rfl⟩

/-- Stores that answer alike leave the same log. -/
theorem StoreAlike.logged (alike : StoreAlike b c R) :
    StoreAlike b.logged c.logged fun p q => R p.1 q.1 ∧ p.2 = q.2 where
  find related address :=
    have same := alike.find related.1 address
    ⟨same.1, same.2, congrArg (fun calls => calls ++ [BackendCall.find address]) related.2⟩
  create related name address status :=
    have same := alike.create related.1 name address status
    ⟨same.1, same.2,
      congrArg (fun calls => calls ++ [BackendCall.create name address status]) related.2⟩

end Backend

variable {σ τ : Type} {b : Backend σ} {c : Backend τ} {R : σ → τ → Prop} {s : σ} {u : τ}
  {address : String} {phase : ResolvePhase}

/-! ## Where a resolution ends -/

/-- The end of a resolution that the cache gave no record, with the calls from there on. -/
inductive ColdExit (b : Backend σ) (address : String) (s : σ) :
    Except ResolveFault Resolved → List BackendCall → σ → Prop where
  | stored {record : Record} {s₁ : σ} (found : b.find address s = (.ok (some record), s₁)) :
      ColdExit b address s (.ok ⟨record, .store⟩) [.find address] s₁
  | unfindable {fault : Store.Fault} {s₁ : σ} (failed : b.find address s = (.error fault, s₁)) :
      ColdExit b address s (.error (.store fault)) [.find address] s₁
  | created {record : Record} {s₁ s₂ : σ} (absent : b.find address s = (.ok none, s₁))
      (made : b.create address address .up s₁ = (.ok record, s₂)) :
      ColdExit b address s (.ok ⟨record, .created⟩)
        [.find address, .create address address .up] s₂
  | uncreatable {fault : Store.Fault} {s₁ s₂ : σ} (absent : b.find address s = (.ok none, s₁))
      (failed : b.create address address .up s₁ = (.error fault, s₂))
      (other : ∀ taken, fault ≠ .conflict taken) :
      ColdExit b address s (.error (.store fault))
        [.find address, .create address address .up] s₂
  | createdElsewhere {taken : String} {record : Record} {s₁ s₂ s₃ : σ}
      (absent : b.find address s = (.ok none, s₁))
      (lost : b.create address address .up s₁ = (.error (.conflict taken), s₂))
      (found : b.find address s₂ = (.ok (some record), s₃)) :
      ColdExit b address s (.ok ⟨record, .createdElsewhere⟩)
        [.find address, .create address address .up, .find address] s₃
  | vanished {taken : String} {s₁ s₂ s₃ : σ} (absent : b.find address s = (.ok none, s₁))
      (lost : b.create address address .up s₁ = (.error (.conflict taken), s₂))
      (gone : b.find address s₂ = (.ok none, s₃)) :
      ColdExit b address s (.error (.vanished address))
        [.find address, .create address address .up, .find address] s₃
  | unfindableAgain {taken : String} {fault : Store.Fault} {s₁ s₂ s₃ : σ}
      (absent : b.find address s = (.ok none, s₁))
      (lost : b.create address address .up s₁ = (.error (.conflict taken), s₂))
      (failed : b.find address s₂ = (.error fault, s₃)) :
      ColdExit b address s (.error (.store fault))
        [.find address, .create address address .up, .find address] s₃

/-- The end of a resolution, with all its calls. -/
inductive Exit (b : Backend σ) (address : String) (s : σ) :
    Except ResolveFault Resolved → List BackendCall → σ → Prop where
  | hit {record : Record} (kept : cachedRecord? (b.cacheGet (cacheKey address) s).1 = some record) :
      Exit b address s (.ok ⟨record, .cache⟩) [.cacheGet (cacheKey address)]
        (b.cacheGet (cacheKey address) s).2
  | cold {result : Except ResolveFault Resolved} {calls : List BackendCall} {s' : σ}
      (missed : cachedRecord? (b.cacheGet (cacheKey address) s).1 = none)
      (exit : ColdExit b address (b.cacheGet (cacheKey address) s).2 result calls s') :
      Exit b address s result (.cacheGet (cacheKey address) :: calls) s'

/-- Everything that a resolution can ever ask for, in order. -/
def resolvePlan (address : String) : List BackendCall :=
  [.cacheGet (cacheKey address), .find address, .create address address .up, .find address]

/-- However it ends, a resolution has gone through its plan up to some point. -/
theorem Exit.calls_prefix {result : Except ResolveFault Resolved} {calls : List BackendCall} {s' : σ}
    (exit : Exit b address s result calls s') : calls <+: resolvePlan address := by
  cases exit with
  | hit => exact ⟨_, rfl⟩
  | cold missed exit => cases exit <;> exact ⟨_, rfl⟩

namespace ResolvePhase

theorem advance_done (result : Except ResolveFault Resolved) (n : Nat) (s : σ) :
    advance b address n (.done result) s = (.done result, s) := by
  induction n with
  | zero => rfl
  | succ n ih => exact ih

/-- Past the look-up, three operations bring a resolution to its end. -/
theorem advance_cold (b : Backend σ) (address : String) (s : σ) (before : List BackendCall) :
    ∃ result s' calls, advance b address 3 .find s = (.done result, s') ∧
      advance b.logged address 3 .find (s, before) = (.done result, s', before ++ calls) ∧
      ColdExit b address s result calls s' := by
  rcases first : b.find address s with ⟨fault | _ | record, s₁⟩
  · refine ⟨_, _, _, ?_, ?_, .unfindable first⟩ <;>
      simp [advance, step, afterFind, first]
  · rcases made : b.create address address .up s₁ with ⟨fault | record, s₂⟩
    · cases fault with
      | conflict taken =>
        rcases again : b.find address s₂ with ⟨fault | _ | record, s₃⟩
        · refine ⟨_, _, _, ?_, ?_, .unfindableAgain first made again⟩ <;>
            simp [advance, step, afterFind, afterCreate, afterFindAgain, first, made, again]
        · refine ⟨_, _, _, ?_, ?_, .vanished first made again⟩ <;>
            simp [advance, step, afterFind, afterCreate, afterFindAgain, first, made, again]
        · refine ⟨_, _, _, ?_, ?_, .createdElsewhere first made again⟩ <;>
            simp [advance, step, afterFind, afterCreate, afterFindAgain, first, made, again]
      | _ =>
        refine ⟨_, _, _, ?_, ?_, .uncreatable first made (by simp)⟩ <;>
          simp [advance, step, afterFind, afterCreate, first, made]
    · refine ⟨_, _, _, ?_, ?_, .created first made⟩ <;>
        simp [advance, step, afterFind, afterCreate, first, made]
  · refine ⟨_, _, _, ?_, ?_, .stored first⟩ <;>
      simp [advance, step, afterFind, first]

/-- One operation past the look-up, over stores that answer alike. -/
theorem step_alike (alike : Backend.StoreAlike b c R) (address : String) (related : R s u)
    (past : phase ≠ .lookUp) :
    (phase.step b address s).1 = (phase.step c address u).1 ∧
      (phase.step b address s).1 ≠ .lookUp ∧
      R (phase.step b address s).2 (phase.step c address u).2 := by
  cases phase with
  | lookUp => exact absurd rfl past
  | find =>
    obtain ⟨same, related'⟩ := alike.find related address
    refine ⟨congrArg afterFind same, ?_, related'⟩
    simp only [step, afterFind]
    split <;> simp
  | create =>
    obtain ⟨same, related'⟩ := alike.create related address address .up
    refine ⟨congrArg afterCreate same, ?_, related'⟩
    simp only [step, afterCreate]
    split <;> simp
  | findAgain =>
    obtain ⟨same, related'⟩ := alike.find related address
    refine ⟨congrArg (afterFindAgain address) same, ?_, related'⟩
    simp only [step, afterFindAgain]
    split <;> simp
  | done result => exact ⟨rfl, by simp [step], related⟩

/-- Any number of operations past the look-up, over stores that answer alike. -/
theorem advance_alike (alike : Backend.StoreAlike b c R) (address : String) (n : Nat) (related : R s u)
    (past : phase ≠ .lookUp) :
    (advance b address n phase s).1 = (advance c address n phase u).1 ∧
      R (advance b address n phase s).2 (advance c address n phase u).2 := by
  induction n generalizing phase s u with
  | zero => exact ⟨rfl, related⟩
  | succ n ih =>
    obtain ⟨same, past', related'⟩ := step_alike alike address related past
    simp only [advance]
    rw [same] at past' ⊢
    exact ih related' past'

end ResolvePhase

/-- What the cache gives is the end. -/
theorem resolve_of_hit {record : Record}
    (kept : cachedRecord? (b.cacheGet (cacheKey address) s).1 = some record) :
    resolve b address s = (.ok ⟨record, .cache⟩, (b.cacheGet (cacheKey address) s).2) := by
  have look : ResolvePhase.lookUp.step b address s =
      (.done (.ok ⟨record, .cache⟩), (b.cacheGet (cacheKey address) s).2) := by
    simp only [ResolvePhase.step, ResolvePhase.afterLookUp, kept]
  rw [resolve, ResolvePhase.advance, look]
  simp only [ResolvePhase.advance_done, ResolvePhase.result]

/-- What the cache does not give is left to the store. -/
theorem resolve_of_miss (missed : cachedRecord? (b.cacheGet (cacheKey address) s).1 = none) :
    resolve b address s =
      ((ResolvePhase.advance b address 3 .find (b.cacheGet (cacheKey address) s).2).1.result address,
        (ResolvePhase.advance b address 3 .find (b.cacheGet (cacheKey address) s).2).2) := by
  have look : ResolvePhase.lookUp.step b address s =
      (.find, (b.cacheGet (cacheKey address) s).2) := by
    simp only [ResolvePhase.step, ResolvePhase.afterLookUp, missed]
  rw [resolve, ResolvePhase.advance, look]

/-- Four operations bring every resolution to its end. -/
theorem advance_resolves (b : Backend σ) (address : String) (s : σ) :
    ResolvePhase.advance b address 4 .lookUp s =
      (.done (resolve b address s).1, (resolve b address s).2) := by
  cases kept : cachedRecord? (b.cacheGet (cacheKey address) s).1 with
  | some record =>
    rw [resolve_of_hit kept, ResolvePhase.advance]
    simp only [ResolvePhase.step, ResolvePhase.afterLookUp, kept, ResolvePhase.advance_done]
  | none =>
    obtain ⟨result, s', calls, cold, -, -⟩ := ResolvePhase.advance_cold b address
      (b.cacheGet (cacheKey address) s).2 []
    rw [resolve_of_miss kept, ResolvePhase.advance]
    simp only [ResolvePhase.step, ResolvePhase.afterLookUp, kept, cold, ResolvePhase.result]

/-- A resolution has the end that its cache and its store give it, and the log says how it got there. -/
theorem resolve_exits (b : Backend σ) (address : String) (s : σ) :
    ∃ result s' calls, resolve b address s = (result, s') ∧
      resolve b.logged address (s, []) = (result, s', calls) ∧ Exit b address s result calls s' := by
  cases kept : cachedRecord? (b.cacheGet (cacheKey address) s).1 with
  | some record =>
    refine ⟨_, _, _, resolve_of_hit kept, ?_, .hit kept⟩
    rw [resolve_of_hit (b := b.logged) (s := (s, [])) kept]
    rfl
  | none =>
    obtain ⟨result, s', calls, cold, noted, exit⟩ := ResolvePhase.advance_cold b address
      (b.cacheGet (cacheKey address) s).2 [.cacheGet (cacheKey address)]
    refine ⟨result, s', _, ?_, ?_, .cold kept exit⟩
    · rw [resolve_of_miss kept, cold]
      rfl
    · rw [resolve_of_miss (b := b.logged) (s := (s, [])) kept]
      simp only [Backend.logged_cacheGet, List.nil_append]
      rw [noted]
      rfl

/-- Where neither cache has a record to give, only the stores' answers matter. -/
theorem resolve_alike (alike : Backend.StoreAlike b c R) (address : String)
    (missed : cachedRecord? (b.cacheGet (cacheKey address) s).1 = none)
    (missed' : cachedRecord? (c.cacheGet (cacheKey address) u).1 = none)
    (related : R (b.cacheGet (cacheKey address) s).2 (c.cacheGet (cacheKey address) u).2) :
    (resolve b address s).1 = (resolve c address u).1 ∧
      R (resolve b address s).2 (resolve c address u).2 := by
  have cold : ResolvePhase.find ≠ .lookUp := by simp
  obtain ⟨same, related'⟩ := ResolvePhase.advance_alike alike address 3 related cold
  rw [resolve_of_miss missed, resolve_of_miss missed']
  exact ⟨congrArg (ResolvePhase.result address) same, related'⟩

end Heartbeat
