import Heartbeat.Config.Resolve
import Heartbeat.Sim.Client
import Heartbeat.Sim.Options
/-!
# The command line

`simulate` with the simulator's options prints the heartbeats of one tick, a line each. Anything else
is the path of a configuration file: the configuration that it gives, together with the environment,
is checked, and shown as far as the pipeline is set up by it.
-/
namespace Heartbeat.Main

def defaultPath : String := "/etc/healthcheck/healthcheckd.toml"

def stateOf (path : String) : IO Config.FileState := do
  try
    return .file (← IO.FS.readBinFile path).data.toList
  catch
    | .noFileOrDirectory .. => return .absent
    | _ => return .unreadable

/-- The variables that a configuration depends on. -/
def environment : IO Config.Environment := do
  let values ← Config.overrides.mapM fun o => do return (o.name, ← IO.getEnv o.name)
  return fun name => (values.lookup name).join

def check (path : String) : IO UInt32 := do
  match Config.resolve path (← stateOf path) (← environment) with
  | .error fault =>
    IO.eprintln ("Failed to load config from " ++ path ++ ": " ++ fault.message)
    return 1
  | .ok config =>
    let settings := config.pipelineSettings
    IO.println (toString settings.workers ++ " workers, " ++ toString settings.queueCapacity ++
      " queued signals, a sweep every " ++ toString settings.reconcilePeriod ++ " ms")
    return 0

/-- Picks one of so many hosts. -/
def pick (hosts : UInt32) : IO UInt32 := do return .ofNat (← IO.rand 1 hosts.toNat)

def simulate (words : List String) : IO UInt32 := do
  match Sim.Options.parse words with
  | .error _ =>
    IO.eprintln "simulate [--url URL] [--hosts N] [--per-tick N] [--interval-secs N]"
    return 2
  | .ok options =>
    match options.complaint? with
    | some complaint =>
      IO.eprintln complaint
      return 1
    | none =>
      let picks ← (List.replicate options.perTick.toNat options.hosts).mapM pick
      for request in Sim.tickRequests picks options.intervalSecs do
        IO.println request.render
      return 0

end Heartbeat.Main

/-- Simulates a tick, or checks a configuration. -/
def main (words : List String) : IO UInt32 :=
  match words with
  | "simulate" :: options => Heartbeat.Main.simulate options
  | path :: _ => Heartbeat.Main.check path
  | [] => Heartbeat.Main.check Heartbeat.Main.defaultPath
