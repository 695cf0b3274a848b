/-
# Telematics.Bridge.Handler -- what the client does for those outside

Those outside may ask for the state of the registry, which they get as JSON, and
may ask the client to shut down, which raises a signal.  Whoever asks with a
reply required gets one.  The signal is up or down: raising it again before
somebody has taken it changes nothing.  Nothing else is understood, and what is
not understood is not answered.
-/
import Telematics.Listener.Handler
import Telematics.Shutdown.Snapshot

namespace Telematics.Bridge

set_option autoImplicit false

open Link

/-- The type of a message that asks for the state of the registry. -/
def statusQuery : Int32 := 1

/-- The type of a message that asks the client to shut down. -/
def shutdownRequest : Int32 := 2

/-- Something that went wrong with a message. -/
inductive Notice where
  | unknownType (code : Int32) (peer : String)
  | replyFailed (sequence : UInt32) (error : ChannelError)
  deriving Repr, DecidableEq

def senderOf (message : Message Handle) : String :=
  (message.destination.map Handle.peer).getD "unknown"

/-- What is understood of a message. -/
inductive Request where
  | status
  | shutdown
  deriving Repr, DecidableEq

/-- What a message asks for. -/
def requestOf? (message : Message Handle) : Option Request :=
  if message.frame.type.code = statusQuery then some .status
  else if message.frame.type.code = shutdownRequest then some .shutdown
  else none

/-- What is replied to a request; `rows` is the state of the registry. -/
def answerTo (rows : Shutdown.Snapshot) : Request → List UInt8
  | .status => rows.bytes
  | .shutdown => []

/-- What the handler keeps. -/
structure State where
  signal : Bool
  /-- How many messages have come. -/
  handled : Nat
  /-- What went wrong, in order. -/
  notices : List Notice

namespace State

/-- The state when one more message has come. -/
def count (state : State) : State :=
  { state with handled := state.handled + 1 }

/-- The state when something has gone wrong. -/
def warn (state : State) (notice : Notice) : State :=
  { state with notices := state.notices ++ [notice] }

/-- The state after a request; one to shut down raises the signal. -/
def meet (state : State) (request : Request) : State :=
  { state with signal := state.signal || request = .shutdown }

end State

/-- The handler of a client whose registry is in the state `rows`. -/
def handler (rows : Shutdown.Snapshot) : Handler State where
  take state message :=
    match requestOf? message with
    | none =>
      (state.count.warn (.unknownType message.frame.type.code (senderOf message)), none)
    | some request =>
      (state.count.meet request,
        if message.frame.replyRequired then some (answerTo rows request) else none)
  note state message
    | .ok () => state
    | .error e => state.warn (.replyFailed message.frame.sequence e)

end Telematics.Bridge
