/-!
# The configuration

What a daemon can be told, in seven sections. Every setting has a default, so a configuration that
nobody gave is complete; it is also valid.
-/
namespace Heartbeat

/-- Where records are cached. -/
inductive CacheProvider where
  | memory
  | redis
  deriving DecidableEq, Repr

def CacheProvider.name : CacheProvider → String
  | .memory => "memory"
  | .redis => "redis"

/-- The topic that heartbeats are published on unless another is given. -/
def defaultTopic : String := "healthcheck"

namespace Config

structure ApiSection where
  listen : String := "0.0.0.0:8082"
  deriving DecidableEq, Repr

/-- The topic, and how many messages it holds before publishers are refused. -/
structure TransportSection where
  topic : String := defaultTopic
  capacity : UInt64 := 4096
  deriving DecidableEq, Repr

/-- The workers, and how many signals are queued for them. -/
structure IntakeSection where
  workers : UInt64 := 10
  queueCapacity : UInt64 := 100
  deriving DecidableEq, Repr

/-- Where records are stored. -/
structure StoreSection where
  dbPath : String := "/var/lib/healthcheck/servers.db"
  deriving DecidableEq, Repr

/-- How records are cached. -/
structure CacheSection where
  provider : CacheProvider := .memory
  url : Option String := none
  ttlSecs : UInt64 := 600
  memoryCapacity : UInt64 := 100000
  deriving DecidableEq, Repr

/-- How documents are archived. -/
structure ArchiveSection where
  /-- The address of the index; nothing is archived without one. -/
  url : Option String := none
  index : String := "heartbeats"
  apiKey : Option String := none
  batchSize : UInt64 := 500
  flushIntervalMs : UInt64 := 1000
  requestTimeoutMs : UInt64 := 30000
  deriving DecidableEq, Repr

structure ReconcileSection where
  periodSecs : UInt64 := 60
  deriving DecidableEq, Repr

end Config

structure Config where
  api : Config.ApiSection := {}
  transport : Config.TransportSection := {}
  intake : Config.IntakeSection := {}
  store : Config.StoreSection := {}
  cache : Config.CacheSection := {}
  archive : Config.ArchiveSection := {}
  reconcile : Config.ReconcileSection := {}
  deriving DecidableEq, Repr

end Heartbeat
