/-
# Telematics.Message -- messages and the frames in which they travel

A frame is what of a message travels over a connection: its type, its sequence
number, whether a reply is asked for, and its payload.  A message is a frame
together with the connection that it is addressed to or came from, if any.  Two
messages count as the same if their frames are equal.

An operation that is refused leaves the message as it was.
-/
import Telematics.Message.Payload

namespace Telematics

set_option autoImplicit false

/-- What of a message travels over a connection. -/
structure Frame where
  type : MessageType
  sequence : UInt32
  replyRequired : Bool
  payload : Payload
  deriving DecidableEq

/-- A frame and the connection it goes to or came from. -/
structure Message (δ : Type) where
  frame : Frame
  destination : Option δ
  deriving DecidableEq

namespace Message

variable {δ : Type}

/-- A message without payload and destination that asks for no reply. -/
def new (code : Int32) (sequence : UInt32) : Except MessageError (Message δ) := do
  let type ← MessageType.ofCode code
  return ⟨⟨type, sequence, false, .empty⟩, none⟩

def addressed (message : Message δ) (destination : δ) : Message δ :=
  { message with destination := some destination }

def requestingReply (message : Message δ) (wanted : Bool) : Message δ :=
  { message with frame := { message.frame with replyRequired := wanted } }

/-- The message with another payload, if that stays below the limit. -/
def withPayload (message : Message δ) (bytes : List UInt8) : Except MessageError (Message δ) := do
  let payload ← Payload.ofBytes bytes
  return { message with frame := { message.frame with payload } }

/-- Whether two messages are the same, wherever they go to. -/
def same (a b : Message δ) : Bool :=
  a.frame = b.frame

end Message

end Telematics
