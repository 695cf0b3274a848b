/-
# Telematics.Channel.Error -- why an exchange of messages failed

The connection failed, what arrived is no frame, or what was to be sent is no
message; or the exchange itself went wrong.
-/
import Telematics.Link.Error
import Telematics.Message.Kind
import Telematics.Wire.Header

namespace Telematics

set_option autoImplicit false

/-- Why an exchange of messages failed. -/
inductive ChannelError where
  | link (error : LinkError)
  | frame (error : FrameError)
  | message (error : MessageError)
  /-- The reply belongs to another request. -/
  | sequenceMismatch (expected actual : UInt32)
  /-- The message is addressed to nobody. -/
  | noDestination
  | replyNotRequested
  deriving Repr, DecidableEq

def ChannelError.text : ChannelError → String
  | .link error => "Transport error: " ++ error.message
  | .frame error => "Framing error: " ++ error.message
  | .message error => "Protocol error: " ++ error.message
  | .sequenceMismatch expected actual =>
    "Reply sequence mismatch: expected " ++ Text.Decimal.text expected.toNat ++ ", got " ++
      Text.Decimal.text actual.toNat
  | .noDestination => "Message has no destination"
  | .replyNotRequested => "Original message did not request a reply"

end Telematics
