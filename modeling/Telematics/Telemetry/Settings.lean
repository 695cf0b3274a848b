/-
# Telematics.Telemetry.Settings -- the settings of the log

The log carries the name of the service, shows what a filter lets pass, and goes
to standard output unless that is turned off, as plain text or as JSON.
-/
import Telematics.Environment

namespace Telematics.Telemetry

set_option autoImplicit false

/-- The settings of the log. -/
structure Settings where
  service : String
  /-- The filter, as it was given. -/
  level : String
  console : Bool
  json : Bool
  deriving Repr, DecidableEq

namespace Settings

def standard : Settings := ⟨"telematics-client", "info", true, false⟩

def lower (s : String) : String :=
  String.ofList (s.toList.map Char.toLower)

/-- Whether a text turns something off that is on by default. -/
def turnsOff (s : String) : Bool :=
  lower s = "false" || s = "0"

/-- Whether a text turns something on that is off by default. -/
def turnsOn (s : String) : Bool :=
  lower s = "true" || s = "1"

def ofEnvironment (env : Environment) : Settings where
  service := (env "TC_SERVICE_NAME").getD standard.service
  level := ((env "TC_LOG_LEVEL").or (env "RUST_LOG")).getD standard.level
  console := ((env "TC_CONSOLE_OUTPUT").map fun s => !turnsOff s).getD standard.console
  json := ((env "TC_JSON_LOGS").map turnsOn).getD standard.json

def withLevel (settings : Settings) (level : String) : Settings :=
  { settings with level }

end Settings

end Telematics.Telemetry
