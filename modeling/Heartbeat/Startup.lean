import Heartbeat.Pipeline
import Heartbeat.Time.Steady
/-!
# Starting a pipeline

The tasks of the archive and of the sweeps set their timers on the steady clock when they begin, and the
archive's task makes its buffer before that. A task whose timer cannot be set, or whose buffer cannot be
made, has ended before its first step: the archive takes no documents then, and no sweep is ever due. A
cache in memory is made before all tasks; it is not made to keep records for more than a thousand years.
-/
namespace Heartbeat

open Time (Steady)

/-- A thousand years of 365 days, in milliseconds. -/
def Cache.Memory.longestTtl : Nat := 1000 * (365 * 86400000)

/-- A cache that keeps records so long. -/
def Cache.Memory.make? (ttl : Nat) : Option Cache.Memory :=
  if ttl ≤ longestTtl then some { ttl } else none

namespace Pipeline

/-- The pipeline after the archive's task has ended. -/
def withoutArchive (p : Pipeline) : Pipeline :=
  { p with services := { p.services with archive := p.services.archive.fail } }

/-- The pipeline after the task of the sweeps has ended. -/
def withoutSweeps (p : Pipeline) : Pipeline := { p with nextSweep := none }

/-- A pipeline whose tasks have begun at a moment of the steady clock. -/
def launch (clock : Steady) (settings : PipelineSettings) (services : Services) : Pipeline :=
  let p := start settings services
  let begins := settings.archive.fits && (clock.firstTick? settings.archive.flushInterval).isSome
  let p := if begins then p else p.withoutArchive
  if (clock.firstTick? settings.reconcilePeriod).isSome then p else p.withoutSweeps

end Pipeline
end Heartbeat
