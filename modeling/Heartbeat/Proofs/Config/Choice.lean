import Mathlib.Algebra.Group.Nat.Defs
import Heartbeat.Config.File

/-! A choice of settings, and when the sections of a document give it: what a section gives is read setting by
setting, and its own defaults, for what it does not give, are those of a section that is not there. -/
namespace Heartbeat.Config

open Toml (Value Entries)

/-! ## Settings -/

/-- A number that a document can spell. -/
structure Count where
  n : UInt64
  fits : n.toNat < 2 ^ 63

def Count.value (count : Count) : Value := .integer count.n.toInt64

def providerValue (provider : CacheProvider) : Value := .text provider.name

/-- Some of the settings that a file can give, each with a value. -/
structure Choice where
  listen : Option String := none
  topic : Option String := none
  capacity : Option Count := none
  workers : Option Count := none
  queueCapacity : Option Count := none
  dbPath : Option String := none
  provider : Option CacheProvider := none
  cacheUrl : Option String := none
  ttlSecs : Option Count := none
  memoryCapacity : Option Count := none
  archiveUrl : Option String := none
  index : Option String := none
  apiKey : Option String := none
  batchSize : Option Count := none
  flushIntervalMs : Option Count := none
  requestTimeoutMs : Option Count := none
  periodSecs : Option Count := none

/-- The number that is chosen, or the one that is there. -/
def chosenOr (chosen : Option Count) (n : UInt64) : UInt64 := (chosen.map Count.n).getD n

/-- A configuration with the chosen settings replaced, and no others. -/
def Choice.replace (chosen : Choice) (base : Config) : Config where
  api := { listen := chosen.listen.getD base.api.listen }
  transport := {
    topic := chosen.topic.getD base.transport.topic
    capacity := chosenOr chosen.capacity base.transport.capacity }
  intake := {
    workers := chosenOr chosen.workers base.intake.workers
    queueCapacity := chosenOr chosen.queueCapacity base.intake.queueCapacity }
  store := { dbPath := chosen.dbPath.getD base.store.dbPath }
  cache := {
    provider := chosen.provider.getD base.cache.provider
    url := chosen.cacheUrl.or base.cache.url
    ttlSecs := chosenOr chosen.ttlSecs base.cache.ttlSecs
    memoryCapacity := chosenOr chosen.memoryCapacity base.cache.memoryCapacity }
  archive := {
    url := chosen.archiveUrl.or base.archive.url
    index := chosen.index.getD base.archive.index
    apiKey := chosen.apiKey.or base.archive.apiKey
    batchSize := chosenOr chosen.batchSize base.archive.batchSize
    flushIntervalMs := chosenOr chosen.flushIntervalMs base.archive.flushIntervalMs
    requestTimeoutMs := chosenOr chosen.requestTimeoutMs base.archive.requestTimeoutMs }
  reconcile := { periodSecs := chosenOr chosen.periodSecs base.reconcile.periodSecs }

/-- The sections of a file. -/
def sections : List String := ["api", "transport", "intake", "store", "cache", "archive", "reconcile"]

/-- What a document gives for a setting. -/
def settingOf (entries : Entries) (place name : String) : Option Value :=
  match entries.lookup place with
  | some (.table table) => table.lookup name
  | _ => none

/-- The document gives the chosen settings and no others that are known, each with its value. What else is in it
does not matter, nor does the order. -/
structure Gives (entries : Entries) (chosen : Choice) : Prop where
  /-- A section that is there is a table. -/
  table : ∀ place ∈ sections, ∀ value, entries.lookup place = some value → ∃ table, value = .table table
  listen : settingOf entries "api" "listen" = chosen.listen.map .text
  topic : settingOf entries "transport" "topic" = chosen.topic.map .text
  capacity : settingOf entries "transport" "capacity" = chosen.capacity.map Count.value
  workers : settingOf entries "intake" "workers" = chosen.workers.map Count.value
  queueCapacity : settingOf entries "intake" "queue_capacity" = chosen.queueCapacity.map Count.value
  dbPath : settingOf entries "store" "db_path" = chosen.dbPath.map .text
  provider : settingOf entries "cache" "provider" = chosen.provider.map providerValue
  cacheUrl : settingOf entries "cache" "url" = chosen.cacheUrl.map .text
  ttlSecs : settingOf entries "cache" "ttl_secs" = chosen.ttlSecs.map Count.value
  memoryCapacity : settingOf entries "cache" "memory_capacity" = chosen.memoryCapacity.map Count.value
  archiveUrl : settingOf entries "archive" "url" = chosen.archiveUrl.map .text
  index : settingOf entries "archive" "index" = chosen.index.map .text
  apiKey : settingOf entries "archive" "api_key" = chosen.apiKey.map .text
  batchSize : settingOf entries "archive" "batch_size" = chosen.batchSize.map Count.value
  flushIntervalMs : settingOf entries "archive" "flush_interval_ms" = chosen.flushIntervalMs.map Count.value
  requestTimeoutMs : settingOf entries "archive" "request_timeout_ms" = chosen.requestTimeoutMs.map Count.value
  periodSecs : settingOf entries "reconcile" "period_secs" = chosen.periodSecs.map Count.value

/-! ## Reading what is given -/

@[simp] theorem given_text (default : String) (chosen : Option String) :
    given text? default (chosen.map .text) = some (chosen.getD default) := by
  cases chosen <;> rfl

@[simp] theorem given_optionalText (default : Option String) (chosen : Option String) :
    given optionalText? default (chosen.map .text) = some (chosen.or default) := by
  cases chosen <;> rfl

@[simp] theorem given_provider (default : CacheProvider) (chosen : Option CacheProvider) :
    given provider? default (chosen.map providerValue) = some (chosen.getD default) := by
  cases chosen with
  | none => rfl
  | some provider => cases provider <;> rfl

/-- A number below `2 ^ 63` is the same with a sign and without. -/
@[simp] theorem count?_value (count : Count) : count? count.value = some count.n := by
  obtain ⟨n, fits⟩ := count
  have positive : 0 ≤ n.toInt64 := by
    have same : n.toInt64.toInt = n.toBitVec.toInt := rfl
    have below : n.toBitVec.toNat < 2 ^ 63 := fits
    rw [Int64.le_iff_toInt_le, same, BitVec.toInt_eq_toNat_of_lt (by omega)]
    exact Int.natCast_nonneg _
  exact if_pos positive

@[simp] theorem given_count (default : UInt64) (chosen : Option Count) :
    given count? default (chosen.map Count.value) = some (chosenOr chosen default) := by
  cases chosen with
  | none => rfl
  | some count => exact count?_value count

/-! ## Sections

A section with nothing in it gives nothing, so it has the defaults of a section that is not there. -/

/-- The table of a section; it is empty if the section is not there. -/
def tableOf (entries : Entries) (place : String) : Entries :=
  match entries.lookup place with
  | some (.table table) => table
  | _ => []

theorem lookup_tableOf (entries : Entries) (place name : String) :
    (tableOf entries place).lookup name = settingOf entries place name := by
  unfold tableOf settingOf
  split <;> rfl

@[simp] theorem settingsOf?_tableOf (entries : Entries) (place : String) :
    settingsOf? (.table (tableOf entries place)) = some fun _ name => settingOf entries place name := by
  simp only [settingsOf?, lookup_tableOf]

variable {entries : Entries} {chosen : Choice}

/-- A section that has the defaults of the configuration if nothing is in it is read as its table, there or not. -/
theorem given_section {α : Type} {ofValue? : Value → Option α} {default : α} {place : String}
    (same : ofValue? (.table []) = some default)
    (table : ∀ value, entries.lookup place = some value → ∃ table, value = .table table) :
    given ofValue? default (entries.lookup place) = ofValue? (.table (tableOf entries place)) := by
  cases there : entries.lookup place with
  | none => simp only [given, tableOf, there, same]
  | some value =>
    obtain ⟨pairs, rfl⟩ := table value there
    simp only [given, tableOf, there]

namespace Gives

theorem api_eq (gives : Gives entries chosen) :
    given ApiSection.ofValue? {} (entries.lookup "api") = some (chosen.replace {}).api := by
  refine (given_section (by rfl) (gives.table "api" (by decide))).trans ?_
  simp [ApiSection.ofValue?, gives.listen, Choice.replace]

theorem transport_eq (gives : Gives entries chosen) :
    given TransportSection.ofValue? {} (entries.lookup "transport") = some (chosen.replace {}).transport := by
  refine (given_section (by rfl) (gives.table "transport" (by decide))).trans ?_
  simp [TransportSection.ofValue?, gives.topic, gives.capacity, Choice.replace]

theorem intake_eq (gives : Gives entries chosen) :
    given IntakeSection.ofValue? {} (entries.lookup "intake") = some (chosen.replace {}).intake := by
  refine (given_section (by rfl) (gives.table "intake" (by decide))).trans ?_
  simp [IntakeSection.ofValue?, gives.workers, gives.queueCapacity, Choice.replace]

theorem store_eq (gives : Gives entries chosen) :
    given StoreSection.ofValue? {} (entries.lookup "store") = some (chosen.replace {}).store := by
  refine (given_section (by rfl) (gives.table "store" (by decide))).trans ?_
  simp [StoreSection.ofValue?, gives.dbPath, Choice.replace]

theorem cache_eq (gives : Gives entries chosen) :
    given CacheSection.ofValue? {} (entries.lookup "cache") = some (chosen.replace {}).cache := by
  refine (given_section (by rfl) (gives.table "cache" (by decide))).trans ?_
  simp [CacheSection.ofValue?, gives.provider, gives.cacheUrl, gives.ttlSecs, gives.memoryCapacity,
    Choice.replace]

theorem archive_eq (gives : Gives entries chosen) :
    given ArchiveSection.ofValue? {} (entries.lookup "archive") = some (chosen.replace {}).archive := by
  refine (given_section (by rfl) (gives.table "archive" (by decide))).trans ?_
  simp [ArchiveSection.ofValue?, gives.archiveUrl, gives.index, gives.apiKey, gives.batchSize,
    gives.flushIntervalMs, gives.requestTimeoutMs, Choice.replace]

theorem reconcile_eq (gives : Gives entries chosen) :
    given ReconcileSection.ofValue? {} (entries.lookup "reconcile") = some (chosen.replace {}).reconcile := by
  refine (given_section (by rfl) (gives.table "reconcile" (by decide))).trans ?_
  simp [ReconcileSection.ofValue?, gives.periodSecs, Choice.replace]

/-- The sections together. -/
theorem ofEntries?_eq (gives : Gives entries chosen) : ofEntries? entries = some (chosen.replace {}) := by
  simp only [ofEntries?, Option.bind_eq_bind, gives.api_eq, gives.transport_eq, gives.intake_eq, gives.store_eq,
    gives.cache_eq, gives.archive_eq, gives.reconcile_eq]
  rfl

end Gives

end Heartbeat.Config
