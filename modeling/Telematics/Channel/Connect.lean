/-
# Telematics.Channel.Connect -- finding who listens at an endpoint

The default endpoint is the socket file of the settings.  A socket file leads to
who listens to it, and a port to who listens there, unless the host has no
address.
-/
import Telematics.Channel.Error
import Telematics.Channel.Settings
import Telematics.FileTree
import Telematics.Link.Network

namespace Telematics

set_option autoImplicit false

/-- The surroundings in which endpoints mean something. -/
structure Surroundings where
  files : FileTree
  network : Link.Network

namespace Channel

/-- The number of who listens at an endpoint. -/
def locate (settings : Settings) (around : Surroundings) (endpoint : Endpoint) :
    Except LinkError Nat :=
  match settings.resolve endpoint with
  | .default => (around.files.listenerAt Endpoint.defaultPath).mapError
      (.connect Endpoint.defaultPath)
  | .file path => (around.files.listenerAt path).mapError (.connect path)
  | .remote host port =>
    match around.network.resolve host with
    | .ok address =>
      (around.network.reach address port).mapError (.connect (Endpoint.remote host port).text)
    | .error _ => .error (.resolve host port)

end Channel

end Telematics
