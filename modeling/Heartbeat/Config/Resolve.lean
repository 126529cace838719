import Heartbeat.Config.Environment
import Heartbeat.Config.File
import Heartbeat.Pipeline
/-!
# The configuration of a daemon

The file, if there is one, and else the defaults; then the environment; then the rules. Only what
comes out in the end has to keep the rules, so the environment can mend a file, and spoil one.
-/
namespace Heartbeat.Config

/-- The settings that have to be positive, in the order in which they are looked at. -/
def positives (c : Config) : List (String × UInt64) := [
  ("intake.workers", c.intake.workers),
  ("intake.queue_capacity", c.intake.queueCapacity),
  ("transport.capacity", c.transport.capacity),
  ("archive.batch_size", c.archive.batchSize),
  ("archive.flush_interval_ms", c.archive.flushIntervalMs),
  ("archive.request_timeout_ms", c.archive.requestTimeoutMs),
  ("reconcile.period_secs", c.reconcile.periodSecs),
  ("cache.ttl_secs", c.cache.ttlSecs)]

/-- Checks the rules: no zero where a positive number is needed, and an address for a shared cache. -/
def validate (c : Config) : Except ConfigFault Unit :=
  match c.positives.find? (·.2 == 0) with
  | some (setting, _) => .error (.zero setting)
  | none => if c.cache.provider = .redis ∧ c.cache.url = none then .error .missingUrl else .ok ()

/-- The defaults are valid. -/
theorem validate_default : validate {} = .ok () := rfl

/-- The configuration of a daemon: what is found at the path of its file, and its environment. -/
def resolve (path : String) (state : FileState) (environment : Environment) :
    Except ConfigFault Config := do
  let config ← match state with
    | .absent => pure {}
    | state => load path state
  match applyEnvironment environment config with
  | (_, some fault) => throw fault
  | (config, none) =>
    config.validate
    return config

def pipelineSettings (c : Config) : PipelineSettings :=
  { workers := c.intake.workers.toNat
    queueCapacity := c.intake.queueCapacity.toNat
    cacheTtl := c.cache.ttlSecs.toNat * 1000
    archive := {
      batchSize := c.archive.batchSize.toNat
      flushInterval := c.archive.flushIntervalMs.toNat
      flushTimeout := c.archive.requestTimeoutMs.toNat }
    reconcilePeriod := c.reconcile.periodSecs.toNat * 1000 }

end Heartbeat.Config
