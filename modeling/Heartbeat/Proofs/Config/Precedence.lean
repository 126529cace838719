import Heartbeat.Config.Resolve
import Heartbeat.Proofs.Config.Overrides

/-! A daemon's configuration is what its environment makes of its file, or of the defaults without one, if that
keeps the rules. The rules are checked on nothing else, so a variable that is set decides whether its setting keeps
them, whatever the file says. -/
namespace Heartbeat.Config

/-- What a configuration has to keep. -/
structure Rules (c : Config) : Prop where
  workers : c.intake.workers ≠ 0
  queueCapacity : c.intake.queueCapacity ≠ 0
  capacity : c.transport.capacity ≠ 0
  batchSize : c.archive.batchSize ≠ 0
  flushIntervalMs : c.archive.flushIntervalMs ≠ 0
  requestTimeoutMs : c.archive.requestTimeoutMs ≠ 0
  periodSecs : c.reconcile.periodSecs ≠ 0
  ttlSecs : c.cache.ttlSecs ≠ 0
  address : c.cache.provider = .redis → c.cache.url ≠ none

/-- The rules on the settings that no variable reaches. -/
structure OwnRules (c : Config) : Prop where
  capacity : c.transport.capacity ≠ 0
  batchSize : c.archive.batchSize ≠ 0
  flushIntervalMs : c.archive.flushIntervalMs ≠ 0
  requestTimeoutMs : c.archive.requestTimeoutMs ≠ 0
  ttlSecs : c.cache.ttlSecs ≠ 0

/-- What the environment starts from: the defaults if there is no file, and else what the file gives. -/
inductive Base (path : String) : FileState → Config → Prop where
  | defaults : Base path .absent {}
  | given {state : FileState} {base : Config} (loaded : load path state = .ok base) : Base path state base

/-- No zero is found exactly if there is none. -/
theorem find?_positives_eq_none_iff {c : Config} :
    c.positives.find? (·.2 == 0) = none ↔ ∀ setting ∈ c.positives, setting.2 ≠ 0 := by
  simp [List.find?_eq_none]

/-- **What is checked are the rules.** -/
theorem validate_eq_ok_iff {c : Config} : c.validate = .ok () ↔ Rules c := by
  have positive : (∀ setting ∈ c.positives, setting.2 ≠ 0) ↔
      c.intake.workers ≠ 0 ∧ c.intake.queueCapacity ≠ 0 ∧ c.transport.capacity ≠ 0 ∧ c.archive.batchSize ≠ 0 ∧
        c.archive.flushIntervalMs ≠ 0 ∧ c.archive.requestTimeoutMs ≠ 0 ∧ c.reconcile.periodSecs ≠ 0 ∧
        c.cache.ttlSecs ≠ 0 := by
    simp [positives]
  constructor
  · intro valid
    unfold validate at valid
    split at valid
    · cases valid
    next checked =>
    split at valid
    · cases valid
    next address =>
    obtain ⟨workers, queue, capacity, batch, flush, timeout, period, ttl⟩ :=
      positive.mp (find?_positives_eq_none_iff.mp checked)
    exact ⟨workers, queue, capacity, batch, flush, timeout, period, ttl, fun shared none => address ⟨shared, none⟩⟩
  · intro rules
    have checked := find?_positives_eq_none_iff.mpr (positive.mpr ⟨rules.workers, rules.queueCapacity,
      rules.capacity, rules.batchSize, rules.flushIntervalMs, rules.requestTimeoutMs, rules.periodSecs,
      rules.ttlSecs⟩)
    simp only [validate, checked]
    exact if_neg fun broken => rules.address broken.1 broken.2

theorem Base.unique {path : String} {state : FileState} {b b' : Config} (first : Base path state b)
    (second : Base path state b') : b = b' := by
  cases first with
  | defaults =>
    cases second with
    | defaults => rfl
    | given loaded => cases loaded
  | given loaded =>
    cases second with
    | defaults => cases loaded
    | given loaded' => exact Except.ok.inj (loaded.symm.trans loaded')

section
variable {path : String} {state : FileState} {environment : Environment} {base c : Config}

theorem resolve_of_base (start : Base path state base) :
    resolve path state environment = match applyEnvironment environment base with
      | (_, some fault) => .error fault
      | (c, none) => c.validate.map fun _ => c := by
  have from_base : resolve path state environment =
      (do match applyEnvironment environment base with
        | (_, some fault) => throw fault
        | (c, none) => do c.validate; return c : Except ConfigFault Config) := by
    cases start with
    | defaults => rfl
    | given loaded =>
      cases state with
      | absent => cases loaded
      | unreadable => cases loaded
      | file content => simp only [resolve, loaded]; rfl
  rw [from_base]
  split
  · rfl
  · next c _ => cases c.validate <;> rfl

/-- A configuration comes of a file only if it loads. -/
theorem exists_base_of_resolve (resolved : resolve path state environment = .ok c) : ∃ base, Base path state base := by
  cases state with
  | absent => exact ⟨{}, .defaults⟩
  | unreadable => cases resolved
  | file content =>
    cases loaded : load path (.file content) with
    | ok base => exact ⟨base, .given loaded⟩
    | error fault =>
      simp only [resolve, loaded] at resolved
      cases resolved

/-- Something comes of the environment exactly if none of its numbers is bad. -/
theorem exists_merged_iff : (∃ c, Merged environment base c) ↔ ∀ name ∈ numbers, ¬ BadNumber environment name := by
  constructor
  · rintro ⟨c, merged⟩ name number ⟨-, text, set, bad⟩
    simp only [numbers, List.mem_cons, List.not_mem_nil, or_false] at number
    rcases number with rfl | rfl | rfl
    · exact bad ⟨_, (Counted.of_some set).mp merged.workers⟩
    · exact bad ⟨_, (Counted.of_some set).mp merged.queueCapacity⟩
    · exact bad ⟨_, (Counted.of_some set).mp merged.periodSecs⟩
  · intro good
    generalize applied : applyEnvironment environment base = result
    have outcome := applyEnvironment_outcome environment base
    rw [applied] at outcome
    cases outcome with
    | merged _ merged => exact ⟨_, merged⟩
    | stopped stops =>
      obtain ⟨_, name, _, _, _, _, _, bad, _⟩ := stops
      exact absurd bad (good name bad.1)

/-- The environment is applied to the end exactly if something comes of it, which is then what is returned. -/
theorem applyEnvironment_of_merged (merged : Merged environment base c) :
    applyEnvironment environment base = (c, none) := by
  have outcome := applyEnvironment_outcome environment base
  generalize applyEnvironment environment base = result at outcome
  cases outcome with
  | merged _ merged' => rw [merged'.unique merged]
  | stopped stops =>
    obtain ⟨_, name, _, _, _, _, _, bad, _⟩ := stops
    exact absurd bad (exists_merged_iff.mp ⟨c, merged⟩ name bad.1)

/-- Only what comes out in the end is checked. -/
theorem resolve_of_merged (start : Base path state base) (merged : Merged environment base c) :
    resolve path state environment = c.validate.map fun _ => c := by
  rw [resolve_of_base start, applyEnvironment_of_merged merged]

/-- **A configuration resolves to what the environment makes of the file or of the defaults, if that keeps the
rules.** -/
theorem resolve_eq_ok_iff :
    resolve path state environment = .ok c ↔ ∃ base, Base path state base ∧ Merged environment base c ∧ Rules c := by
  constructor
  · intro resolved
    obtain ⟨base, start⟩ := exists_base_of_resolve resolved
    have outcome := applyEnvironment_outcome environment base
    rw [resolve_of_base start] at resolved
    generalize applyEnvironment environment base = result at outcome resolved
    cases outcome with
    | stopped stops => cases resolved
    | @merged merged' good merged =>
      simp only at resolved
      cases valid : merged'.validate with
      | error fault => simp [valid, Except.map] at resolved
      | ok _ =>
        rw [valid] at resolved
        cases resolved
        exact ⟨base, start, merged, validate_eq_ok_iff.mp valid⟩
  · rintro ⟨base, start, merged, rules⟩
    rw [resolve_of_merged start merged, validate_eq_ok_iff.mpr rules]
    rfl

/-! ## Mending and spoiling a file -/

theorem counts_zero : Text.Counts (Text.trim "0") 0 := Text.readCount_eq_ok_iff.mp (by decide +kernel)

theorem counts_one : Text.Counts (Text.trim "1") 1 := Text.readCount_eq_ok_iff.mp (by decide +kernel)

/-- An environment that gives every setting with a rule a value that keeps it, as far as it reaches. -/
def mending : Environment := fun name =>
  if name = "REDIS_URL" then some "redis://localhost:6379" else if name ∈ numbers then some "1" else none

/-- What the mending environment makes of a configuration. -/
def mended (base : Config) : Config :=
  { base with
    intake := { workers := 1, queueCapacity := 1 }
    cache := { base.cache with provider := .redis, url := some "redis://localhost:6379" }
    reconcile := { periodSecs := 1 } }

theorem merged_mended (base : Config) : Merged mending base (mended base) := by
  constructor
  case workers => exact counts_one
  case queueCapacity => exact counts_one
  case periodSecs => exact counts_one
  all_goals rfl

theorem OwnRules.mended (own : OwnRules base) : Rules (mended base) where
  workers := (by decide : (1 : UInt64) ≠ 0)
  queueCapacity := (by decide : (1 : UInt64) ≠ 0)
  capacity := own.capacity
  batchSize := own.batchSize
  flushIntervalMs := own.flushIntervalMs
  requestTimeoutMs := own.requestTimeoutMs
  periodSecs := (by decide : (1 : UInt64) ≠ 0)
  ttlSecs := own.ttlSecs
  address := fun _ none => by cases none

/-- No environment changes a setting that has no variable. -/
theorem Merged.ownRules (merged : Merged environment base c) (rules : Rules c) : OwnRules base where
  capacity := merged.capacity ▸ rules.capacity
  batchSize := merged.batchSize ▸ rules.batchSize
  flushIntervalMs := merged.flushIntervalMs ▸ rules.flushIntervalMs
  requestTimeoutMs := merged.requestTimeoutMs ▸ rules.requestTimeoutMs
  ttlSecs := merged.ttlSecs ▸ rules.ttlSecs

/-- **A file can be mended exactly if it keeps the rules on the settings that no variable reaches.** -/
theorem exists_resolve_iff (start : Base path state base) :
    (∃ environment c, resolve path state environment = .ok c) ↔ OwnRules base := by
  constructor
  · rintro ⟨environment, c, resolved⟩
    obtain ⟨base', start', merged, rules⟩ := resolve_eq_ok_iff.mp resolved
    rw [start.unique start']
    exact merged.ownRules rules
  · intro own
    exact ⟨mending, mended base, resolve_eq_ok_iff.mpr ⟨base, start, merged_mended base, own.mended⟩⟩

/-- The variables that are numbers, with the settings they decide. -/
def numberSettings : List (String × String) :=
  [("HEALTHCHECKD_WORKERS", "intake.workers"), ("HEALTHCHECKD_QUEUE_CAPACITY", "intake.queue_capacity"),
    ("HEALTHCHECKD_RECONCILE_PERIOD_SECS", "reconcile.period_secs")]

/-- **Whatever resolves is spoiled by a zero.** -/
theorem resolve_zero (resolved : resolve path state environment = .ok c) :
    ∀ number ∈ numberSettings,
      resolve path state ((Environment.single number.1 "0").above environment) = .error (.zero number.2) := by
  obtain ⟨base, start, merged, rules⟩ := resolve_eq_ok_iff.mp resolved
  -- the configuration with a zero in the place of one number is checked
  have spoils {name setting : String} {zeroed : Config} (single : Merged (.single name "0") c zeroed)
      (checked : zeroed.validate = .error (.zero setting)) :
      resolve path state ((Environment.single name "0").above environment) = .error (.zero setting) := by
    rw [resolve_of_merged start (merged.trans single), checked]
    rfl
  simp only [numberSettings, List.forall_mem_cons, List.not_mem_nil, false_imp_iff, implies_true, and_true]
  refine ⟨?_, ?_, ?_⟩
  · have single : Merged (.single "HEALTHCHECKD_WORKERS" "0") c { c with intake.workers := 0 } := by
      constructor
      case workers => exact counts_zero
      all_goals rfl
    exact spoils single rfl
  · have single : Merged (.single "HEALTHCHECKD_QUEUE_CAPACITY" "0") c { c with intake.queueCapacity := 0 } := by
      constructor
      case queueCapacity => exact counts_zero
      all_goals rfl
    apply spoils single
    simp [validate, positives, rules.workers]
  · have single : Merged (.single "HEALTHCHECKD_RECONCILE_PERIOD_SECS" "0") c
        { c with reconcile.periodSecs := 0 } := by
      constructor
      case periodSecs => exact counts_zero
      all_goals rfl
    apply spoils single
    simp [validate, positives, rules.workers, rules.queueCapacity, rules.capacity, rules.batchSize,
      rules.flushIntervalMs, rules.requestTimeoutMs]

end

/-- **Precedence.** A configuration resolves exactly if there is no file or it loads, every number that is set in the
environment is one, and what the environment makes of the file or of the defaults keeps the rules; that is then the
configuration. Nothing else is checked: a file can be mended if it keeps the rules on the settings that no variable
reaches, and is spoiled by a zero. Where a number is none, the variables before it have been applied and no others. -/
theorem environment_takes_precedence (path : String) (state : FileState) (environment : Environment) :
    ((∃ c, resolve path state environment = .ok c) ↔
      ∃ base, Base path state base ∧
        (∀ name ∈ numbers, ∀ text, environment name = some text → ∃ n, Text.Counts (Text.trim text) n) ∧
        ∀ c, Merged environment base c → Rules c) ∧
    (∀ c, resolve path state environment = .ok c ↔
      ∃ base, Base path state base ∧ Merged environment base c ∧ Rules c) ∧
    (∀ base, Base path state base → ((∃ other c, resolve path state other = .ok c) ↔ OwnRules base)) ∧
    (∀ c, resolve path state environment = .ok c → ∀ number ∈ numberSettings,
      resolve path state ((Environment.single number.1 "0").above environment) = .error (.zero number.2)) ∧
    ∀ base stopped,
      (applyEnvironment environment base = (stopped, none) ↔ Merged environment base stopped) ∧
      ∀ fault, applyEnvironment environment base = (stopped, some fault) →
        StopsAt environment base stopped fault := by
  refine ⟨?_, fun c => resolve_eq_ok_iff, fun base => exists_resolve_iff, fun c => resolve_zero,
    fun base stopped => ⟨?_, ?_⟩⟩
  · constructor
    · rintro ⟨c, resolved⟩
      obtain ⟨base, start, merged, rules⟩ := resolve_eq_ok_iff.mp resolved
      refine ⟨base, start, fun name number text set => ?_, fun c' merged' => ?_⟩
      · by_contra bad
        exact exists_merged_iff.mp ⟨c, merged⟩ name number ⟨number, text, set, bad⟩
      · rwa [merged'.unique merged]
    · rintro ⟨base, start, good, rules⟩
      obtain ⟨c, merged⟩ : ∃ c, Merged environment base c := by
        apply exists_merged_iff.mpr
        rintro name number ⟨-, text, set, bad⟩
        exact bad (good name number text set)
      exact ⟨c, resolve_eq_ok_iff.mpr ⟨base, start, merged, rules c merged⟩⟩
  · constructor
    · intro applied
      have outcome := applyEnvironment_outcome environment base
      rw [applied] at outcome
      cases outcome with
      | merged _ merged => exact merged
    · exact applyEnvironment_of_merged
  · intro fault applied
    have outcome := applyEnvironment_outcome environment base
    rw [applied] at outcome
    cases outcome with
    | stopped stops => exact stops

/-- A file that asks for no workers, in an environment that asks for three. -/
theorem zero_workers_are_mended :
    validate { intake := { workers := 0 } } = .error (.zero "intake.workers") ∧
      resolve "healthcheckd.toml" (.file (Text.encode "[intake]\nworkers = 0\n"))
        (.single "HEALTHCHECKD_WORKERS" " +3 ") = .ok { intake := { workers := 3 } } := by
  have parsed : (Toml.parse? "[intake]\nworkers = 0\n").bind ofEntries? = some { intake := { workers := 0 } } := by
    decide +kernel
  have loaded : load "healthcheckd.toml" (.file (Text.encode "[intake]\nworkers = 0\n")) =
      .ok { intake := { workers := 0 } } := by
    simp only [load, Text.decode?_encode, parsed]
  have three : Text.Counts (Text.trim " +3 ") 3 := Text.readCount_eq_ok_iff.mp (by decide +kernel)
  have merged : Merged (.single "HEALTHCHECKD_WORKERS" " +3 ") { intake := { workers := 0 } }
      { intake := { workers := 3 } } := by
    constructor
    case workers => exact three
    all_goals rfl
  refine ⟨rfl, ?_⟩
  exact ((environment_takes_precedence _ _ _).2.1 _).mpr ⟨_, .given loaded, merged, validate_eq_ok_iff.mp rfl⟩

end Heartbeat.Config
