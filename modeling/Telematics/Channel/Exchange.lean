/-
# Telematics.Channel.Exchange -- sending, replying and receiving

A channel makes messages, each with a number of its own, and exchanges them over
connections.  Sending a message marks it as asking for a reply or not, writes its
frame and, if a reply is wanted, reads one frame from the same connection, which
has to carry the number of the message; a frame with another number is discarded.
A reply carries the type and the number of the message that it answers.

Reading a frame takes the header, looks at the announced length, and takes the
payload; a length that is too great leaves everything behind the header where it
is.  `readFrame` works on anything that bytes can be read from.
-/
import Telematics.Channel.Error
import Telematics.Channel.Settings
import Telematics.Link.Fabric
import Telematics.Message.Sequence
import Telematics.Wire.Frame

namespace Telematics

set_option autoImplicit false

open Link

/-- A source of numbered messages and the settings for exchanging them. -/
structure Channel where
  settings : Channel.Settings
  counter : SequenceCounter
  deriving DecidableEq

namespace Channel

/-- Something that the caller should know: a reply to another request was discarded. -/
structure Notice where
  expected : UInt32
  actual : UInt32
  peer : String
  deriving Repr, DecidableEq

def Notice.message (n : Notice) : String :=
  "[Channel] Discarding reply seq=" ++ Text.Decimal.text n.actual.toNat ++ " (expected " ++
    Text.Decimal.text n.expected.toNat ++ ") from " ++ n.peer

/-- A channel of which no number has been taken. -/
def new (settings : Settings) : Channel := ⟨settings, .new⟩

/-- A message to a connection.  Its number is taken also if there is no such message. -/
def create (channel : Channel) (code : Int32) (destination : Handle) :
    Except ChannelError (Message Handle) × Channel :=
  let (sequence, counter) := channel.counter.take
  let message := (Message.new code sequence).map (·.addressed destination)
  (message.mapError .message, { channel with counter })

def readFrame {σ : Type} (read : Nat → σ → Except LinkError (List UInt8) × σ) (s : σ) :
    Except ChannelError Frame × σ :=
  match read Wire.headerLength s with
  | (.error e, s) => (.error (.link e), s)
  | (.ok header, s) =>
    match Wire.peekLength header with
    | .error e => (.error (.frame e), s)
    | .ok length =>
      if Payload.limit < length then
        (.error (.frame (.lengthTooLarge length Payload.limit)), s)
      else
        match read length s with
        | (.error e, s) => (.error (.link e), s)
        | (.ok payload, s) => ((Frame.decode (header ++ payload)).mapError .frame, s)

def readFrom (settings : Settings) (source : Handle) (f : Fabric) :
    Except ChannelError Frame × Fabric :=
  readFrame (fun n f => f.read source settings.transferTimeout n) f

/-- What sending led to. -/
structure Sent where
  /-- The payload of the reply, if one was wanted. -/
  result : Except ChannelError (Option Payload)
  /-- The message, which says whether it asked for a reply. -/
  message : Message Handle
  fabric : Fabric
  notices : List Notice

/-- Where a message is to be written to, and the message that is written there. -/
def outbound (f : Fabric) (message : Message Handle) (wantsReply : Bool) :
    Except ChannelError (Handle × Message Handle) :=
  match message.destination with
  | none => .error .noDestination
  | some destination =>
    if f.isConnected destination then .ok (destination, message.requestingReply wantsReply)
    else .error (.link .notConnected)

/-- Writes a message to where it is addressed to, and says which frame went where. -/
def post (settings : Settings) (f : Fabric) (message : Message Handle) (wantsReply : Bool) :
    Except ChannelError Handle × Message Handle × Fabric :=
  match outbound f message wantsReply with
  | .error e => (.error e, message, f)
  | .ok (destination, message) =>
    match f.write destination settings.transferTimeout message.frame.encode with
    | (.error e, f) => (.error (.link e), message, f)
    | (.ok _, f) => (.ok destination, message, f)

/-- The payload of the reply to a frame, if it is one. -/
def answerIn (request reply : Frame) : Except ChannelError Payload :=
  if reply.sequence = request.sequence then .ok reply.payload
  else .error (.sequenceMismatch request.sequence reply.sequence)

def collect (settings : Settings) (f : Fabric) (source : Handle) (request : Frame) :
    Except ChannelError Payload × Fabric :=
  let (result, f) := readFrom settings source f
  (result >>= answerIn request, f)

/-- What the caller should know about the reading of a reply from `source`. -/
def noticesOf {α : Type} (source : Handle) : Except ChannelError α → List Notice
  | .error (.sequenceMismatch expected actual) => [⟨expected, actual, source.peer⟩]
  | _ => []

/-- Sends a message, and waits for the reply if one is wanted. -/
def send (settings : Settings) (f : Fabric) (message : Message Handle) (wantsReply : Bool) : Sent :=
  match post settings f message wantsReply with
  | (.error e, message, f) => ⟨.error e, message, f, []⟩
  | (.ok destination, message, f) =>
    if wantsReply then
      let (result, f) := collect settings f destination message.frame
      ⟨result.map some, message, f, noticesOf destination result⟩
    else ⟨.ok none, message, f, []⟩

/-- The message that answers another. -/
def replyTo (request : Message Handle) (payload : List UInt8) :
    Except ChannelError (Message Handle) :=
  if !request.frame.replyRequired then .error .replyNotRequested
  else
    match request.destination with
    | none => .error .noDestination
    | some destination =>
      let blank : Message Handle :=
        ⟨⟨request.frame.type, request.frame.sequence, false, .empty⟩, some destination⟩
      (blank.withPayload payload).mapError .message

def reply (settings : Settings) (f : Fabric) (request : Message Handle) (payload : List UInt8) :
    Except ChannelError Unit × Fabric :=
  match replyTo request payload with
  | .error e => (.error e, f)
  | .ok message =>
    let sent := send settings f message false
    (sent.result.map fun _ => (), sent.fabric)

/-- Receives a message, whose destination is then where it came from. -/
def receive (settings : Settings) (f : Fabric) (source : Handle) :
    Except ChannelError (Message Handle) × Fabric :=
  let (result, f) := readFrom settings source f
  (result.map fun frame => ⟨frame, some source⟩, f)

end Channel

end Telematics
