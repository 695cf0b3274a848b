/-
# Telematics.Client.Error -- why the client does not start or shut down

A failure has causes: the first says what was being done, and each one behind it
says why the one before came about.  A report of a failure has the first in its
first line and the others below, numbered if there are several, each line of
theirs behind a margin.
-/
import Telematics.Endpoint
import Telematics.Link.Error
import Telematics.Shutdown.Error
import Telematics.Telemetry.Filter
import Telematics.Text.Cut

namespace Telematics

set_option autoImplicit false

/-- What the operating system said when something went wrong with a connection. -/
def LinkError.source? : LinkError → Option SystemError
  | .connect _ source => some source
  | .io source => some source
  | _ => none

/-- What the operating system said when a coordinator did not start. -/
def Shutdown.StartError.source? : Shutdown.StartError → Option SystemError
  | .noThread source => some source
  | .alreadyStarted => none

/-- Why the client does not start or shut down. -/
inductive ClientError where
  | noLog (error : Telemetry.TelemetryError)
  | alreadyStarted
  /-- It cannot listen to the outside. -/
  | noBridge (listen : Endpoint) (error : LinkError)
  | alreadyShuttingDown
  | noCoordinator (error : Shutdown.StartError)
  deriving Repr, DecidableEq

namespace ClientError

/-- What was being done. -/
def headline : ClientError → String
  | .noLog _ => "Failed to initialize logging"
  | .alreadyStarted => "client runtime already started"
  | .noBridge listen _ => "Failed to bind external receive bridge on " ++ listen.text
  | .alreadyShuttingDown => "shutdown already in progress"
  | .noCoordinator _ => "Failed to start shutdown coordinator"

/-- Why that failed, the nearest cause first. -/
def reasons : ClientError → List String
  | .noLog error => [error.message]
  | .noBridge _ error => error.message :: (error.source?.map SystemError.message).toList
  | .noCoordinator error => error.message :: (error.source?.map SystemError.message).toList
  | .alreadyStarted => []
  | .alreadyShuttingDown => []

/-- What was being done, and why that failed. -/
def causes (e : ClientError) : List String :=
  e.headline :: e.reasons

/-- The lines of a text, the first behind one margin and the others behind another. -/
def indent (first others text : String) : String :=
  first ++ ("\n" ++ others).intercalate ((Text.cut '\n' text.toList).map String.ofList)

/-- One of several reasons. -/
def numbered (number : Nat) (reason : String) : String :=
  let digits := Text.Decimal.digits number
  let blanks := List.replicate (5 - digits.length) ' '
  indent (String.ofList (blanks ++ digits) ++ ": ") "       " reason

def reasonsText : List String → String
  | [] => ""
  | [reason] => "\n\nCaused by:\n" ++ indent "    " "    " reason
  | reasons =>
    "\n\nCaused by:\n" ++
      "\n".intercalate (reasons.mapIdx numbered)

def report (e : ClientError) : String :=
  "Error: " ++ e.headline ++ reasonsText e.reasons ++ "\n"

end ClientError

end Telematics
