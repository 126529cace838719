import Heartbeat.Config.Basic
import Heartbeat.Config.Fault
import Heartbeat.Text.Utf8
import Heartbeat.Toml.Document
/-!
# The configuration file

A file gives sections by name, and a section gives settings: as a table by name, or as a list in the
order of the settings. What is not given has its default; what is not known, and what stands behind
the last setting of a list, is passed over. A setting of the wrong kind makes the whole file
malformed.
-/
namespace Heartbeat.Config

open Toml (Value)

/-- What a section gives for a setting, by its place and its name; none if the value is no section. A
date or a time counts as a section that gives nothing. -/
def settingsOf? : Value → Option (Nat → String → Option Value)
  | .table entries => some fun _ name => entries.lookup name
  | .list items => some fun place _ => items[place]?
  | .moment _ => some fun _ _ => none
  | _ => none

/-- What was given, if it can be read, or the default. -/
def given (read : Value → Option α) (default : α) : Option Value → Option α
  | none => some default
  | some value => read value

def text? : Value → Option String
  | .text text => some text
  | _ => none

def optionalText? (value : Value) : Option (Option String) := (text? value).map some

def count? : Value → Option UInt64
  | .integer n => if 0 ≤ n then some n.toUInt64 else none
  | _ => none

def namedProvider? (name : String) : Option CacheProvider :=
  [CacheProvider.memory, .redis].find? (·.name == name)

/-- Whether a value is a table or a list with nothing in it. -/
def isNothing : Value → Bool
  | .table entries => entries.isEmpty
  | .list items => items.isEmpty
  | _ => false

/-- A provider: its name, or a table with its name and nothing under it. -/
def provider? : Value → Option CacheProvider
  | .text name => namedProvider? name
  | .table [(name, value)] => if isNothing value then namedProvider? name else none
  | _ => none

def ApiSection.ofValue? (value : Value) : Option ApiSection := do
  let default : ApiSection := {}
  let setting ← settingsOf? value
  return { listen := ← given text? default.listen (setting 0 "listen") }

def TransportSection.ofValue? (value : Value) : Option TransportSection := do
  let default : TransportSection := {}
  let setting ← settingsOf? value
  return {
    topic := ← given text? default.topic (setting 0 "topic")
    capacity := ← given count? default.capacity (setting 1 "capacity") }

def IntakeSection.ofValue? (value : Value) : Option IntakeSection := do
  let default : IntakeSection := {}
  let setting ← settingsOf? value
  return {
    workers := ← given count? default.workers (setting 0 "workers")
    queueCapacity := ← given count? default.queueCapacity (setting 1 "queue_capacity") }

def StoreSection.ofValue? (value : Value) : Option StoreSection := do
  let default : StoreSection := {}
  let setting ← settingsOf? value
  return { dbPath := ← given text? default.dbPath (setting 0 "db_path") }

def CacheSection.ofValue? (value : Value) : Option CacheSection := do
  let default : CacheSection := {}
  let setting ← settingsOf? value
  return {
    provider := ← given provider? default.provider (setting 0 "provider")
    url := ← given optionalText? default.url (setting 1 "url")
    ttlSecs := ← given count? default.ttlSecs (setting 2 "ttl_secs")
    memoryCapacity := ← given count? default.memoryCapacity (setting 3 "memory_capacity") }

def ArchiveSection.ofValue? (value : Value) : Option ArchiveSection := do
  let default : ArchiveSection := {}
  let setting ← settingsOf? value
  return {
    url := ← given optionalText? default.url (setting 0 "url")
    index := ← given text? default.index (setting 1 "index")
    apiKey := ← given optionalText? default.apiKey (setting 2 "api_key")
    batchSize := ← given count? default.batchSize (setting 3 "batch_size")
    flushIntervalMs := ← given count? default.flushIntervalMs (setting 4 "flush_interval_ms")
    requestTimeoutMs := ← given count? default.requestTimeoutMs (setting 5 "request_timeout_ms") }

def ReconcileSection.ofValue? (value : Value) : Option ReconcileSection := do
  let default : ReconcileSection := {}
  let setting ← settingsOf? value
  return { periodSecs := ← given count? default.periodSecs (setting 0 "period_secs") }

/-- The configuration that the sections of a file give. -/
def ofEntries? (entries : Toml.Entries) : Option Config := do
  let default : Config := {}
  return {
    api := ← given ApiSection.ofValue? default.api (entries.lookup "api")
    transport := ← given TransportSection.ofValue? default.transport (entries.lookup "transport")
    intake := ← given IntakeSection.ofValue? default.intake (entries.lookup "intake")
    store := ← given StoreSection.ofValue? default.store (entries.lookup "store")
    cache := ← given CacheSection.ofValue? default.cache (entries.lookup "cache")
    archive := ← given ArchiveSection.ofValue? default.archive (entries.lookup "archive")
    reconcile := ← given ReconcileSection.ofValue? default.reconcile (entries.lookup "reconcile") }

inductive FileState where
  | absent
  /-- A directory, or something else that cannot be read. -/
  | unreadable
  | file (content : Bytes)
  deriving DecidableEq, Repr

def load (path : String) : FileState → Except ConfigFault Config
  | .absent | .unreadable => .error (.unreadable path)
  | .file content =>
    match Text.decode? content with
    | none => .error (.unreadable path)
    | some text =>
      match (Toml.parse? text).bind ofEntries? with
      | none => .error (.malformed path)
      | some config => .ok config

end Heartbeat.Config
