/-
# Telematics.Shutdown.Error -- what can go wrong with a shutdown

Registering fails without a receiver, and an operation on a participant that has
not registered finds nobody.  A plan may repeat a role; a coordinator is started
once, and starting it may fail for want of a thread.
-/
import Telematics.Identity
import Telematics.Shutdown.Plan
import Telematics.SystemError

namespace Telematics.Shutdown

set_option autoImplicit false

/-- Why the registry refuses. -/
inductive RegistryError where
  /-- There is nobody to be told. -/
  | missingReceiver (id : Identity)
  | notRegistered (id : Identity)
  deriving Repr, DecidableEq

def RegistryError.message : RegistryError → String
  | .missingReceiver id => "No shutdown receiver supplied for " ++ id.text
  | .notRegistered id => "Receiver " ++ id.text ++ " is not registered"

def Overlap.message (overlap : Overlap) : String :=
  "Invalid stage plan: " ++ overlap.role.name ++ " appears in stages " ++
    Text.Decimal.text overlap.first ++ " and " ++ Text.Decimal.text overlap.second

/-- Why a coordinator does not start. -/
inductive StartError where
  | alreadyStarted
  | noThread (source : SystemError)
  deriving Repr, DecidableEq

def StartError.message : StartError → String
  | .alreadyStarted => "Shutdown coordinator already started"
  | .noThread source => "Failed to spawn coordinator thread: " ++ source.message

end Telematics.Shutdown
