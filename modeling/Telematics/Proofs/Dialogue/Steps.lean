/-
# Telematics.Proofs.Dialogue.Steps -- a caller that gives up waiting

A caller and a session share a connection.  The caller makes messages, gives them
payloads and sends each of them at most once, one at a time and in any order; it
may stop to wait for a reply of which nothing has come yet.  The session receives
messages and replies to any that it has received, as often as it likes and as late
as it likes, but to one at a time.

Both go in small steps, as in a conversation, and a step that is not possible
changes nothing.  So every list of choices is a run.
-/
import Telematics.Proofs.Conversation.Steps

namespace Telematics

set_option autoImplicit false

open Link Conversation

namespace Dialogue

/-- A session has been told to reply to a message. -/
structure Call where
  request : Message Handle
  payload : List UInt8

/-- The frame that a reply puts on the way, unless it is refused. -/
def Call.frame? (call : Call) : Option Frame :=
  (Channel.replyTo call.request call.payload).toOption.map Message.frame

end Dialogue

/-- A caller and a session that share a connection. -/
structure Dialogue where
  fabric : Fabric
  channel : Channel
  /-- What making each message has led to, without those that have been taken up to be sent. -/
  drafts : List (Option (Message Handle))
  caller : Caller
  /-- What the session has read of the next message. -/
  held : List UInt8
  /-- The messages that the session has received, in order. -/
  seen : List (Message Handle)
  /-- The replies that the session has been told to make, in order. -/
  calls : List Dialogue.Call
  /-- What the session has still to write of a reply. -/
  left : List UInt8

namespace Dialogue

/-- Who does what next, where at most so many bytes are moved. -/
inductive Choice where
  | make (code : Int32)
  | fill (number : Nat) (payload : List UInt8)
  | send (number : Nat) (wantsReply : Bool)
  /-- The caller goes on with what it sends. -/
  | goOn (most : Nat)
  /-- The caller has waited for a reply for too long. -/
  | giveUp
  | receive (most : Nat)
  | reply (number : Nat) (payload : List UInt8)
  /-- The session writes a first portion of a reply or more of it. -/
  | write (most : Nat) (begun : Bool)

/-- How a caller is known to its session. -/
def far : Handle := ⟨0, .far, unnamed⟩

/-- A caller and a session that have not done anything yet. -/
def start (channel : Channel) (peer : String) : Dialogue :=
  ⟨[.new], channel, [], .start peer 0 [], [], [], [], []⟩

/-! ## The steps of the caller -/

def make (d : Dialogue) (code : Int32) : Dialogue :=
  let (created, channel) := d.channel.create code d.caller.handle
  { d with channel, drafts := d.drafts ++ [created.toOption] }

/-- Gives a message that has not been sent another payload, unless that is too long. -/
def fill (d : Dialogue) (number : Nat) (payload : List UInt8) : Dialogue :=
  match d.drafts[number]? with
  | some (some message) =>
    match message.withPayload payload with
    | .ok message => { d with drafts := d.drafts.set number (some message) }
    | .error _ => d
  | _ => d

/-- Takes up a message to send it. -/
def send (d : Dialogue) (number : Nat) (wantsReply : Bool) : Dialogue :=
  match d.caller.stage, d.drafts[number]? with
  | .ready, some (some message) =>
    { d with
      drafts := d.drafts.set number none
      caller := { d.caller with stage := .made message wantsReply } }
  | _, _ => d

def goOn (d : Dialogue) (most : Nat) : Dialogue :=
  match d.caller.step? most d.channel d.fabric with
  | some (caller, channel, fabric) => { d with caller, channel, fabric }
  | none => d

def giveUp (d : Dialogue) : Dialogue :=
  match d.caller.stage with
  | .reading _ source [] =>
    if d.fabric.isReadable source then d
    else
      let late := ChannelError.link (.timeout .read d.channel.settings.transferTimeout)
      { d with caller := d.caller.finish (.error late) }
  | _ => d

/-! ## The steps of the session -/

/-- The session when some bytes of a message have come. -/
def hear (d : Dialogue) (held : List UInt8) : Dialogue :=
  match Channel.readingOf held with
  | .whole frame => { d with held := [], seen := d.seen ++ [received far frame] }
  | _ => { d with held }

def receive (d : Dialogue) (most : Nat) : Dialogue :=
  match Channel.readOn? most far d.fabric d.held with
  | some (held, fabric) => { d with fabric }.hear held
  | none => d

/-- Replies to a message, unless another reply is being written. -/
def reply (d : Dialogue) (number : Nat) (payload : List UInt8) : Dialogue :=
  match d.left, d.seen[number]? with
  | [], some request =>
    let calls := d.calls ++ [⟨request, payload⟩]
    match Channel.replyTo request payload >>= (Channel.outbound d.fabric · false) with
    | .ok (_, message) => { d with calls, left := message.frame.encode }
    | .error _ => { d with calls }
  | _, _ => d

def write (d : Dialogue) (most : Nat) (begun : Bool) : Dialogue :=
  match (d.fabric.outgoing far).give? most begun d.left with
  | some (left, pipe) => { d with left, fabric := d.fabric.withOutgoing far pipe }
  | none => d

/-! ## Runs -/

def step (d : Dialogue) : Choice → Dialogue
  | .make code => d.make code
  | .fill number payload => d.fill number payload
  | .send number wantsReply => d.send number wantsReply
  | .goOn most => d.goOn most
  | .giveUp => d.giveUp
  | .receive most => d.receive most
  | .reply number payload => d.reply number payload
  | .write most begun => d.write most begun

/-- What a number of choices lead to. -/
def run (d : Dialogue) (choices : List Choice) : Dialogue :=
  choices.foldl step d

def Choice.isMake : Choice → Bool
  | .make _ => true
  | _ => false

/-- How many messages are asked to be made, including those that cannot be made. -/
def makings (choices : List Choice) : Nat := choices.countP Choice.isMake

end Dialogue

end Telematics
