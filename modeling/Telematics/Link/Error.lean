/-
# Telematics.Link.Error -- what can go wrong with a connection

A connection cannot be made, or a transfer over it does not come to its end in
time, is cut short, or fails.  A reading that met the end before its first byte
tells that the other side has closed in good order (`peerClosed`); one that met
it later was cut off.
-/
import Telematics.SystemError
import Telematics.Text.Elapsed

namespace Telematics

set_option autoImplicit false

/-- The way that bytes go. -/
inductive Direction where
  | read
  | write
  deriving Repr, DecidableEq

def Direction.text : Direction → String
  | .read => "read"
  | .write => "write"

/-- What went wrong with a connection. -/
inductive LinkError where
  /-- Nobody answered in time. -/
  | connectTimeout (endpoint : String) (limit : Span)
  | connect (endpoint : String) (source : SystemError)
  /-- The host has no address. -/
  | resolve (host : String) (port : UInt16)
  /-- A transfer had to wait for too long. -/
  | timeout (direction : Direction) (limit : Span)
  | shortTransfer (direction : Direction) (transferred expected : Nat)
  | notConnected
  /-- The operating system refused. -/
  | io (source : SystemError)
  deriving Repr, DecidableEq

namespace LinkError

def message : LinkError → String
  | .connectTimeout endpoint limit =>
    "Connect to " ++ endpoint ++ " timed out after " ++ limit.text
  | .connect endpoint source => "Connect to " ++ endpoint ++ " failed: " ++ source.message
  | .resolve host port => "Failed to resolve " ++ host ++ ":" ++ Text.Decimal.text port.toNat
  | .timeout direction limit => direction.text ++ " timed out after " ++ limit.text
  | .shortTransfer direction transferred expected =>
    "Short " ++ direction.text ++ ": " ++ Text.Decimal.text transferred ++ " of " ++
      Text.Decimal.text expected ++ " bytes"
  | .notConnected => "Destination is not connected"
  | .io source => "I/O error: " ++ source.message

/-- Whether the other side had closed before it sent a byte. -/
def peerClosed : LinkError → Bool
  | .shortTransfer .read 0 _ => true
  | _ => false

end LinkError

end Telematics
