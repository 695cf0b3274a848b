/-
# Telematics.Channel.Settings -- the settings of a channel

How long connecting and transferring may take, and the socket file that the
default endpoint stands for.
-/
import Telematics.Endpoint
import Telematics.Environment
import Telematics.Path

namespace Telematics.Channel

set_option autoImplicit false

/-- The settings of a channel. -/
structure Settings where
  connectTimeout : Span
  transferTimeout : Span
  /-- The socket file that the default endpoint stands for. -/
  path : String
  deriving Repr, DecidableEq

namespace Settings

def standard : Settings :=
  ⟨.ofMilliseconds 5000, .ofMilliseconds 10000, Endpoint.defaultPath⟩

def ofEnvironment (env : Environment) : Settings where
  connectTimeout := (env.span? "TC_CONNECT_TIMEOUT_MS").getD standard.connectTimeout
  transferTimeout := (env.span? "TC_IO_TIMEOUT_MS").getD standard.transferTimeout
  path := (env.nonempty? "TC_SOCKET_PATH").getD standard.path

/-- Whether two settings are the same, their paths in whatever spelling. -/
def same (a b : Settings) : Bool :=
  a.connectTimeout = b.connectTimeout && a.transferTimeout = b.transferTimeout &&
    Path.same a.path b.path

/-- The endpoint that is meant by another under these settings. -/
def resolve (settings : Settings) (endpoint : Endpoint) : Endpoint :=
  endpoint.resolve settings.path

end Settings

end Telematics.Channel
