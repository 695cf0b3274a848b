/-
# Telematics.Listener.Handler -- what is done with messages

A handler has a state.  It takes a message, which may change the state and call
for a reply, and once the reply has been sent or could not be it takes note of
that.  Between the two the reply may have to wait for its reader.

`run` does all of it at once, for a reply that waits in vain or not at all.
-/
import Telematics.Channel.Exchange

namespace Telematics

set_option autoImplicit false

open Link

/-- What is done with messages. -/
structure Handler (σ : Type) where
  /-- Takes a message, and says what is to be replied, if anything is. -/
  take : σ → Message Handle → σ × Option (List UInt8)
  /-- Takes note of what has become of the reply to a message. -/
  note : σ → Message Handle → Except ChannelError Unit → σ

/-- Handles a message at once. -/
def Handler.run {σ : Type} (handler : Handler σ) (settings : Channel.Settings) (state : σ)
    (f : Fabric) (message : Message Handle) : σ × Fabric :=
  match handler.take state message with
  | (state, none) => (state, f)
  | (state, some payload) =>
    let (result, f) := Channel.reply settings f message payload
    (handler.note state message result, f)

end Telematics
