import Heartbeat.Config.Environment
import Heartbeat.Proofs.Text.Count

/-! What the environment makes of a configuration, setting by setting, and how far it gets when one of its numbers
is none. Overrides are applied one after another; each sets what its own variable decides, so what has been
applied is what an environment without the later variables makes of the configuration. -/
namespace Heartbeat.Config

/-- The variables that override a setting, in the order in which they are looked at. -/
def consulted : List String :=
  ["HEALTHCHECKD_LISTEN", "HEALTHCHECKD_TOPIC", "HEALTHCHECKD_DB_PATH", "REDIS_URL", "HEALTHCHECKD_WORKERS",
    "HEALTHCHECKD_QUEUE_CAPACITY", "HEALTHCHECKD_RECONCILE_PERIOD_SECS", "ELASTIC_URL", "ELASTIC_API_KEY",
    "ELASTIC_INDEX"]

/-- The variables that are numbers. -/
def numbers : List String :=
  ["HEALTHCHECKD_WORKERS", "HEALTHCHECKD_QUEUE_CAPACITY", "HEALTHCHECKD_RECONCILE_PERIOD_SECS"]

/-- What a number becomes: what its variable spells between blanks, and what it was if that is not set. -/
def Counted (environment : Environment) (name : String) (before after : UInt64) : Prop :=
  match environment name with
  | none => after = before
  | some text => Text.Counts (Text.trim text) after

/-- What an environment makes of a configuration. Each setting has the value of its variable if that is set, and
else the one that it had; most have no variable. -/
structure Merged (environment : Environment) (base merged : Config) : Prop where
  listen : merged.api.listen = (environment "HEALTHCHECKD_LISTEN").getD base.api.listen
  topic : merged.transport.topic = (environment "HEALTHCHECKD_TOPIC").getD base.transport.topic
  capacity : merged.transport.capacity = base.transport.capacity
  workers : Counted environment "HEALTHCHECKD_WORKERS" base.intake.workers merged.intake.workers
  queueCapacity : Counted environment "HEALTHCHECKD_QUEUE_CAPACITY" base.intake.queueCapacity
    merged.intake.queueCapacity
  dbPath : merged.store.dbPath = (environment "HEALTHCHECKD_DB_PATH").getD base.store.dbPath
  provider : merged.cache.provider = if (environment "REDIS_URL").isSome then .redis else base.cache.provider
  cacheUrl : merged.cache.url = (environment "REDIS_URL").or base.cache.url
  ttlSecs : merged.cache.ttlSecs = base.cache.ttlSecs
  memoryCapacity : merged.cache.memoryCapacity = base.cache.memoryCapacity
  archiveUrl : merged.archive.url = (environment "ELASTIC_URL").or base.archive.url
  index : merged.archive.index = (environment "ELASTIC_INDEX").getD base.archive.index
  apiKey : merged.archive.apiKey = (environment "ELASTIC_API_KEY").or base.archive.apiKey
  batchSize : merged.archive.batchSize = base.archive.batchSize
  flushIntervalMs : merged.archive.flushIntervalMs = base.archive.flushIntervalMs
  requestTimeoutMs : merged.archive.requestTimeoutMs = base.archive.requestTimeoutMs
  periodSecs : Counted environment "HEALTHCHECKD_RECONCILE_PERIOD_SECS" base.reconcile.periodSecs
    merged.reconcile.periodSecs

/-! ## Environments -/

/-- The environment in which one variable is set. -/
def Environment.single (name value : String) : Environment := fun other => if other = name then some value else none

/-- One environment on top of another, which shows where the upper one sets nothing. -/
def Environment.above (upper lower : Environment) : Environment := fun name => (upper name).or (lower name)

/-- The environment without all other variables. -/
def Environment.only (environment : Environment) (names : List String) : Environment :=
  fun name => if name ∈ names then environment name else none

theorem Environment.only_nil (environment : Environment) : environment.only [] = fun _ => none := rfl

theorem Environment.only_append_of_none {environment : Environment} {name : String} (names : List String)
    (unset : environment name = none) : environment.only (names ++ [name]) = environment.only names := by
  funext other
  by_cases same : other = name
  · simp [only, same, unset]
  · simp [only, same]

theorem Environment.only_append_of_some {environment : Environment} {name value : String} (names : List String)
    (set : environment name = some value) :
    environment.only (names ++ [name]) = (single name value).above (environment.only names) := by
  funext other
  by_cases same : other = name
  · simp [only, above, single, same, set]
  · simp [only, above, single, same]

/-- A number is set in the environment to what spells none. -/
def BadNumber (environment : Environment) (name : String) : Prop :=
  name ∈ numbers ∧ ∃ text, environment name = some text ∧ ¬ ∃ n, Text.Counts (Text.trim text) n

theorem Counted.of_none {environment : Environment} {name : String} {before after : UInt64}
    (unset : environment name = none) : Counted environment name before after ↔ after = before := by
  rw [Counted, unset]

theorem Counted.of_some {environment : Environment} {name text : String} {before after : UInt64}
    (set : environment name = some text) :
    Counted environment name before after ↔ Text.Counts (Text.trim text) after := by
  rw [Counted, set]

theorem Counted.congr {environment environment' : Environment} {name : String} {before after : UInt64}
    (agree : environment name = environment' name) :
    Counted environment name before after ↔ Counted environment' name before after := by
  rw [Counted, Counted, agree]

theorem Counted.unique {environment : Environment} {name : String} {before n m : UInt64}
    (first : Counted environment name before n) (second : Counted environment name before m) : n = m := by
  cases value : environment name with
  | none => rw [(of_none value).mp first, (of_none value).mp second]
  | some text => exact ((of_some value).mp first).unique ((of_some value).mp second)

/-- Without an environment everything stays as it was. -/
theorem Merged.refl (base : Config) : Merged (fun _ => none) base base := by
  constructor <;> rfl

/-- A configuration and an environment determine what comes of them. -/
theorem Merged.unique {environment : Environment} {base c d : Config} (first : Merged environment base c)
    (second : Merged environment base d) : c = d := by
  have workers := first.workers.unique second.workers
  have queueCapacity := first.queueCapacity.unique second.queueCapacity
  have periodSecs := first.periodSecs.unique second.periodSecs
  obtain ⟨⟨_⟩, ⟨_, _⟩, ⟨_, _⟩, ⟨_⟩, ⟨_, _, _, _⟩, ⟨_, _, _, _, _, _⟩, ⟨_⟩⟩ := c
  obtain ⟨⟨_⟩, ⟨_, _⟩, ⟨_, _⟩, ⟨_⟩, ⟨_, _, _, _⟩, ⟨_, _, _, _, _, _⟩, ⟨_⟩⟩ := d
  cases first
  cases second
  simp_all

/-- Only the variables that are looked at matter. -/
theorem Merged.congr {environment environment' : Environment} {base c : Config}
    (agree : ∀ name ∈ consulted, environment name = environment' name) (merged : Merged environment base c) :
    Merged environment' base c := by
  simp only [consulted, List.forall_mem_cons] at agree
  obtain ⟨listen, topic, dbPath, redis, workers, queueCapacity, period, elastic, apiKey, index, -⟩ := agree
  exact { merged with
    listen := listen ▸ merged.listen
    topic := topic ▸ merged.topic
    workers := (Counted.congr workers).mp merged.workers
    queueCapacity := (Counted.congr queueCapacity).mp merged.queueCapacity
    dbPath := dbPath ▸ merged.dbPath
    provider := redis ▸ merged.provider
    cacheUrl := redis ▸ merged.cacheUrl
    archiveUrl := elastic ▸ merged.archiveUrl
    index := index ▸ merged.index
    apiKey := apiKey ▸ merged.apiKey
    periodSecs := (Counted.congr period).mp merged.periodSecs }

theorem Counted.trans {upper lower : Environment} {name : String} {first second third : UInt64}
    (below : Counted lower name first second) (above : Counted upper name second third) :
    Counted (upper.above lower) name first third := by
  cases value : upper name with
  | none =>
    rw [(Counted.of_none value).mp above]
    exact (Counted.congr (by rw [Environment.above, value, Option.none_or])).mp below
  | some text =>
    have shown : upper.above lower name = some text := by rw [Environment.above, value, Option.some_or]
    exact (Counted.of_some shown).mpr ((Counted.of_some value).mp above)

/-- What one environment makes of a configuration and another of that, both together make of it, the second on top
of the first. -/
theorem Merged.trans {upper lower : Environment} {base c d : Config} (below : Merged lower base c)
    (above : Merged upper c d) : Merged (upper.above lower) base d where
  listen := by rw [above.listen, below.listen, Environment.above, Option.getD_or]
  topic := by rw [above.topic, below.topic, Environment.above, Option.getD_or]
  capacity := above.capacity.trans below.capacity
  workers := below.workers.trans above.workers
  queueCapacity := below.queueCapacity.trans above.queueCapacity
  dbPath := by rw [above.dbPath, below.dbPath, Environment.above, Option.getD_or]
  provider := by
    rw [above.provider, below.provider, Environment.above]
    cases upper "REDIS_URL" <;> rfl
  cacheUrl := by rw [above.cacheUrl, below.cacheUrl, Environment.above, Option.or_assoc]
  ttlSecs := above.ttlSecs.trans below.ttlSecs
  memoryCapacity := above.memoryCapacity.trans below.memoryCapacity
  archiveUrl := by rw [above.archiveUrl, below.archiveUrl, Environment.above, Option.or_assoc]
  index := by rw [above.index, below.index, Environment.above, Option.getD_or]
  apiKey := by rw [above.apiKey, below.apiKey, Environment.above, Option.or_assoc]
  batchSize := above.batchSize.trans below.batchSize
  flushIntervalMs := above.flushIntervalMs.trans below.flushIntervalMs
  requestTimeoutMs := above.requestTimeoutMs.trans below.requestTimeoutMs
  periodSecs := below.periodSecs.trans above.periodSecs

/-! ## One override -/

theorem countOverride_set {name value : String} {set : UInt64 → Config → Config} {c after : Config} :
    (countOverride name set).set value c = .ok after ↔
      ∃ n, Text.Counts (Text.trim value) n ∧ after = set n c := by
  cases read : Text.readCount (Text.trim value) with
  | ok n =>
    have spelled := Text.readCount_eq_ok_iff.mp read
    simp only [countOverride, read, Except.map]
    constructor
    · intro result
      cases result
      exact ⟨n, spelled, rfl⟩
    · rintro ⟨m, spelled', rfl⟩
      rw [spelled'.unique spelled]
  | error reason =>
    simp only [countOverride, read, Except.map]
    constructor
    · intro result
      cases result
    · rintro ⟨n, spelled, -⟩
      rw [Text.readCount_eq_ok_iff.mpr spelled] at read
      cases read

/-- What an override does with its variable: it sets a text as it is, or the number that the text spells; and all
of the configuration becomes what the variable alone makes of it. -/
inductive Override.Faithful : Override → Prop where
  | text {name : String} {set : String → Config → Config} (word : name ∉ numbers)
      (merges : ∀ value c, Merged (.single name value) c (set value c)) : Faithful (textOverride name set)
  | count {name : String} {set : UInt64 → Config → Config} (number : name ∈ numbers)
      (merges : ∀ value n c, Text.Counts (Text.trim value) n → Merged (.single name value) c (set n c)) :
      Faithful (countOverride name set)

theorem faithful_of_mem_overrides : ∀ o ∈ overrides, o.Faithful := by
  simp only [overrides, List.forall_mem_cons]
  refine ⟨.text (by decide) ?_, .text (by decide) ?_, .text (by decide) ?_, .text (by decide) ?_,
    .count (by decide) ?_, .count (by decide) ?_, .count (by decide) ?_,
    .text (by decide) ?_, .text (by decide) ?_, .text (by decide) ?_, by simp⟩
  -- a setting that the override leaves alone depends on no variable, or on another
  all_goals intros
  all_goals constructor
  all_goals first
    | rfl
    | assumption

variable {environment : Environment} {base c after : Config} {o : Override}

/-- An override that goes through is applied on top of those before it. -/
theorem Override.Faithful.apply_eq_ok {names : List String} (faithful : o.Faithful)
    (applied : o.apply environment c = .ok after) (merged : Merged (environment.only names) base c) :
    ¬ BadNumber environment o.name ∧ Merged (environment.only (names ++ [o.name])) base after := by
  cases value : environment o.name with
  | none =>
    rw [Override.apply, value] at applied
    cases applied
    rw [Environment.only_append_of_none names value]
    refine ⟨?_, merged⟩
    rintro ⟨-, text, set, -⟩
    rw [value] at set
    cases set
  | some text =>
    rw [Environment.only_append_of_some names value]
    rw [Override.apply, value] at applied
    cases faithful with
    | text word merges =>
      cases applied
      exact ⟨fun bad => word bad.1, merged.trans (merges text c)⟩
    | @count name set number merges =>
      cases done : (countOverride name set).set text c with
      | error reason => simp [done, Except.mapError] at applied
      | ok result =>
        obtain ⟨n, spelled, rfl⟩ := countOverride_set.mp done
        simp only [done, Except.mapError, Except.ok.injEq] at applied
        subst applied
        refine ⟨?_, merged.trans (merges text n c spelled)⟩
        rintro ⟨-, other, set', bad⟩
        cases value.symm.trans set'
        exact bad ⟨n, spelled⟩

/-- An override fails for the one reason that its variable is a number and spells none. -/
theorem Override.Faithful.apply_eq_error {fault : ConfigFault} (faithful : o.Faithful)
    (failed : o.apply environment c = .error fault) :
    BadNumber environment o.name ∧ ∃ text reason, environment o.name = some text ∧
      Text.readCount (Text.trim text) = .error reason ∧ fault = .badNumber o.name text reason := by
  cases value : environment o.name with
  | none =>
    rw [Override.apply, value] at failed
    cases failed
  | some text =>
    rw [Override.apply, value] at failed
    cases faithful with
    | text word merges => cases failed
    | @count name set number merges =>
      cases read : Text.readCount (Text.trim text) with
      | ok n => simp [countOverride, read, Except.map, Except.mapError] at failed
      | error reason =>
        simp only [countOverride, read, Except.map, Except.mapError, Except.error.injEq] at failed
        have spells : ¬ ∃ n, Text.Counts (Text.trim text) n := by
          rintro ⟨n, spelled⟩
          rw [Text.readCount_eq_ok_iff.mpr spelled] at read
          cases read
        exact ⟨⟨number, text, value, spells⟩, text, reason, rfl, read, failed.symm⟩

/-! ## All overrides -/

/-- The overrides stop at the first number that is none: the variables before it have been applied, and no others. -/
def StopsAt (environment : Environment) (base stopped : Config) (fault : ConfigFault) : Prop :=
  ∃ before name after text reason, consulted = before ++ name :: after ∧
    (∀ earlier ∈ before, ¬ BadNumber environment earlier) ∧ BadNumber environment name ∧
    environment name = some text ∧ Text.readCount (Text.trim text) = .error reason ∧
    fault = .badNumber name text reason ∧ Merged (environment.only before) base stopped

/-- What may come of the overrides. -/
inductive Outcome (environment : Environment) (base : Config) : Config × Option ConfigFault → Prop where
  | merged {result : Config} (good : ∀ name ∈ consulted, ¬ BadNumber environment name)
      (merged : Merged environment base result) : Outcome environment base (result, none)
  | stopped {result : Config} {fault : ConfigFault} (stops : StopsAt environment base result fault) :
      Outcome environment base (result, some fault)

theorem map_name_overrides : overrides.map (·.name) = consulted := rfl

theorem Merged.of_only (merged : Merged (environment.only consulted) base c) : Merged environment base c :=
  merged.congr fun name known => by simp [Environment.only, known]

/-- What is left of the overrides goes on from what those before it have made. -/
theorem applyAll_outcome {before rest : List Override} (whole : overrides = before ++ rest)
    (good : ∀ o ∈ before, ¬ BadNumber environment o.name)
    (merged : Merged (environment.only (before.map (·.name))) base c) :
    Outcome environment base (applyAll environment rest c) := by
  induction rest generalizing before c with
  | nil =>
    rw [List.append_nil] at whole
    rw [← whole, map_name_overrides] at merged
    refine .merged (fun name known => ?_) merged.of_only
    rw [← map_name_overrides, whole, List.mem_map] at known
    obtain ⟨o, member, rfl⟩ := known
    exact good o member
  | cons o rest ih =>
    have faithful : o.Faithful := faithful_of_mem_overrides o (by simp [whole])
    cases applied : o.apply environment c with
    | ok after =>
      obtain ⟨fine, further⟩ := faithful.apply_eq_ok applied merged
      have names : (before ++ [o]).map (·.name) = before.map (·.name) ++ [o.name] := List.map_append
      rw [← names] at further
      simp only [applyAll, applied]
      refine ih ?_ ?_ further
      · rw [whole, List.append_assoc, List.singleton_append]
      · intro earlier member
        rcases List.mem_append.mp member with early | last
        · exact good earlier early
        · rwa [List.mem_singleton.mp last]
    | error fault =>
      obtain ⟨bad, text, reason, set, read, rfl⟩ := faithful.apply_eq_error applied
      simp only [applyAll, applied]
      apply Outcome.stopped
      refine ⟨before.map (·.name), o.name, rest.map (·.name), text, reason, ?_, ?_, bad, set, read, rfl, merged⟩
      · rw [← map_name_overrides, whole, List.map_append, List.map_cons]
      · intro earlier member
        obtain ⟨o, early, rfl⟩ := List.mem_map.mp member
        exact good o early

/-- **Either every number in the environment is one, and all of it is applied; or what stands before the first that
is none is applied, and nothing else.** -/
theorem applyEnvironment_outcome (environment : Environment) (base : Config) :
    Outcome environment base (applyEnvironment environment base) := by
  have start : overrides = [] ++ overrides := rfl
  apply applyAll_outcome start
  · simp
  · rw [List.map_nil, Environment.only_nil]
    exact .refl base

end Heartbeat.Config
