import Heartbeat.Config.Basic
import Heartbeat.Config.Fault
import Heartbeat.Text.Blank
/-!
# Overrides from the environment

Ten variables of the environment take precedence over the file. They are applied in a fixed order,
each on its own; the first one that should be a number and is none ends it, and what was applied
before stays.
-/
namespace Heartbeat.Config

abbrev Environment := String → Option String

/-- A variable, and what its value changes. -/
structure Override where
  name : String
  set : String → Config → Except Text.CountFault Config

def textOverride (name : String) (set : String → Config → Config) : Override :=
  ⟨name, fun value config => .ok (set value config)⟩

/-- A variable that is a number, with blanks around it perhaps. -/
def countOverride (name : String) (set : UInt64 → Config → Config) : Override :=
  ⟨name, fun value config => (Text.readCount (Text.trim value)).map (set · config)⟩

/-- The variables, in the order in which they are applied. -/
def overrides : List Override := [
  textOverride "HEALTHCHECKD_LISTEN" fun value c =>
    { c with api := { c.api with listen := value } },
  textOverride "HEALTHCHECKD_TOPIC" fun value c =>
    { c with transport := { c.transport with topic := value } },
  textOverride "HEALTHCHECKD_DB_PATH" fun value c =>
    { c with store := { c.store with dbPath := value } },
  textOverride "REDIS_URL" fun value c =>
    { c with cache := { c.cache with provider := .redis, url := some value } },
  countOverride "HEALTHCHECKD_WORKERS" fun n c =>
    { c with intake := { c.intake with workers := n } },
  countOverride "HEALTHCHECKD_QUEUE_CAPACITY" fun n c =>
    { c with intake := { c.intake with queueCapacity := n } },
  countOverride "HEALTHCHECKD_RECONCILE_PERIOD_SECS" fun n c =>
    { c with reconcile := { c.reconcile with periodSecs := n } },
  textOverride "ELASTIC_URL" fun value c =>
    { c with archive := { c.archive with url := some value } },
  textOverride "ELASTIC_API_KEY" fun value c =>
    { c with archive := { c.archive with apiKey := some value } },
  textOverride "ELASTIC_INDEX" fun value c =>
    { c with archive := { c.archive with index := value } }]

def Override.apply (environment : Environment) (o : Override) (config : Config) :
    Except ConfigFault Config :=
  match environment o.name with
  | none => .ok config
  | some value => (o.set value config).mapError (.badNumber o.name value)

/-- Applies overrides up to the first that fails: what comes out, and why it ended there. -/
def applyAll (environment : Environment) : List Override → Config → Config × Option ConfigFault
  | [], config => (config, none)
  | o :: rest, config =>
    match o.apply environment config with
    | .ok config => applyAll environment rest config
    | .error fault => (config, some fault)

def applyEnvironment (environment : Environment) (config : Config) : Config × Option ConfigFault :=
  applyAll environment overrides config

end Heartbeat.Config
