/-
# Telematics.Client.Settings -- the settings of the client

The settings of the log, of the shutdown and of the channel, and the endpoint at
which the client listens to the outside.
-/
import Telematics.Channel.Settings
import Telematics.Shutdown.Timing
import Telematics.Telemetry.Settings

namespace Telematics.Client

set_option autoImplicit false

/-- The settings of the client. -/
structure Settings where
  telemetry : Telemetry.Settings
  timing : Shutdown.Timing
  channel : Channel.Settings
  listen : Endpoint
  deriving Repr, DecidableEq

def Settings.ofEnvironment (env : Environment) : Settings where
  telemetry := .ofEnvironment env
  timing := .ofEnvironment env
  channel := .ofEnvironment env
  listen := ((env "TC_LISTEN_ADDR").map Endpoint.ofText).getD .default

end Telematics.Client
