import Heartbeat.Text.Count
/-!
# Faults of a configuration

A configuration is refused when its file cannot be read or is no configuration, when a variable of the
environment should be a number and is none, and when what comes out of both breaks a rule.
-/
namespace Heartbeat

/-- Why there is no configuration. -/
inductive ConfigFault where
  | unreadable (path : String)
  | malformed (path : String)
  /-- A variable of the environment has a value that is no count. -/
  | badNumber (name value : String) (reason : Text.CountFault)
  | zero (setting : String)
  | missingUrl
  deriving DecidableEq, Repr

def ConfigFault.message : ConfigFault → String
  | .unreadable path => "Failed to read config file: " ++ path
  | .malformed path => "Failed to parse config file: " ++ path
  | .badNumber name value reason =>
    "Invalid value for " ++ name ++ ": " ++ value ++ " (" ++ reason.message ++ ")"
  | .zero setting => setting ++ " must be at least 1"
  | .missingUrl => "cache.url is required for the redis provider"

end Heartbeat
