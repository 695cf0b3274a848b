/-
# Telematics.Proofs.Conversation.Steps -- callers and sessions in conversation

Several callers share one channel, and each has a connection of its own to a
session.  A caller makes one message after the other, sends it, and waits for the
reply if it wants one.  A session reads message after message, hands them to the
handler, and writes the replies.

Everybody goes in small steps, between which all others may take theirs: making
a message, beginning to send it, and single attempts to move some bytes, how many
being up to the surroundings.  What becomes of a frame that has been read is what
becomes of it in `Session.dispatch` and `Channel.answerIn`, and a run is any
sequence of possible steps.  Nobody hangs up, and nobody waits in vain.
-/
import Telematics.Listener.Session
import Telematics.Proofs.Channel.Reading
import Telematics.Proofs.Link.Portion

namespace Telematics

set_option autoImplicit false

open Link

namespace Conversation

/-- What somebody wants to send. -/
structure Request where
  type : MessageType
  payload : List UInt8
  short : payload.length < Payload.limit
  wantsReply : Bool

/-- What a caller is about. -/
inductive Caller.Stage where
  /-- It sends nothing at the moment. -/
  | ready
  | made (message : Message Handle) (wantsReply : Bool)
  /-- It writes a message, of which some bytes are left. -/
  | writing (message : Message Handle) (target : Handle) (left : List UInt8)
  /-- It reads the reply to a message, and holds what has come of it. -/
  | reading (message : Message Handle) (source : Handle) (held : List UInt8)

/-- Somebody who sends messages over a connection. -/
structure Caller where
  handle : Handle
  todo : List Request
  stage : Caller.Stage
  /-- The frames that it has begun to send, in order. -/
  sent : List Frame
  /-- What making and sending a message has led to, in order. -/
  results : List (Except ChannelError (Option Payload))

/-- A session, and what of its reply is left to be written. -/
structure Server where
  session : Session
  left : List UInt8
  /-- The messages that have been handed to the handler, in order. -/
  seen : List (Message Handle)

/-- Who takes a step, and how many bytes are moved at most. -/
inductive Choice where
  | caller (number most : Nat)
  | server (number most : Nat)

/-! ## The steps of a caller -/

namespace Caller

/-- A caller that has not sent anything. -/
def start (peer : String) (number : Nat) (todo : List Request) : Caller :=
  ⟨⟨number, .near, peer⟩, todo, .ready, [], []⟩

/-- Whether a caller has sent all that it wanted to. -/
def Done (caller : Caller) : Prop := caller.stage = .ready ∧ caller.todo = []

/-- The caller with a result. -/
def finish (caller : Caller) (result : Except ChannelError (Option Payload)) : Caller :=
  { caller with stage := .ready, results := caller.results ++ [result] }

/-- Makes the message for a request. -/
def prepare (caller : Caller) (channel : Channel) (request : Request) (todo : List Request) :
    Caller × Channel :=
  let (created, channel) := channel.create request.type.code caller.handle
  match created >>= fun message => (message.withPayload request.payload).mapError .message with
  | .ok message => ({ caller with todo, stage := .made message request.wantsReply }, channel)
  | .error e => ({ caller with todo }.finish (.error e), channel)

def begin (caller : Caller) (f : Fabric) (message : Message Handle) (wantsReply : Bool) : Caller :=
  match Channel.outbound f message wantsReply with
  | .ok (target, message) =>
    { caller with
      stage := .writing message target message.frame.encode
      sent := caller.sent ++ [message.frame] }
  | .error e => caller.finish (.error e)

/-- The caller when some bytes of a message are left to be written. -/
def written (caller : Caller) (message : Message Handle) (target : Handle) (left : List UInt8) :
    Caller :=
  if left.isEmpty then
    if message.frame.replyRequired then { caller with stage := .reading message target [] }
    else caller.finish (.ok none)
  else { caller with stage := .writing message target left }

/-- The caller when some bytes of a reply have come. -/
def read (caller : Caller) (message : Message Handle) (source : Handle) (held : List UInt8) :
    Caller :=
  match Channel.readingOf held with
  | .wanting _ => { caller with stage := .reading message source held }
  | .whole reply => caller.finish ((Channel.answerIn message.frame reply).map some)
  | .refused e => caller.finish (.error (.frame e))

def step? (most : Nat) (channel : Channel) (f : Fabric) (caller : Caller) :
    Option (Caller × Channel × Fabric) :=
  match caller.stage with
  | .ready =>
    match caller.todo with
    | [] => none
    | request :: todo =>
      let (caller, channel) := caller.prepare channel request todo
      some (caller, channel, f)
  | .made message wantsReply => some (caller.begin f message wantsReply, channel, f)
  | .writing message target left =>
    let begun := left.length ≠ message.frame.encode.length
    ((f.outgoing target).give? most begun left).map fun (left, pipe) =>
      (caller.written message target left, channel, f.withOutgoing target pipe)
  | .reading message source held =>
    (Channel.readOn? most source f held).map fun (held, f) =>
      (caller.read message source held, channel, f)

end Caller

/-! ## The steps of a session -/

/-- A message as a session hands it on. -/
def received (source : Handle) (frame : Frame) : Message Handle := ⟨frame, some source⟩

namespace Server

variable {σ : Type}

/-- A session that has not read anything. -/
def start (number : Nat) : Server :=
  ⟨.start (number + 1) ⟨number, .far, unnamed⟩, [], []⟩

def outgoing : Session.Stage → List UInt8
  | .reading _ => []
  | .replying _ reply => reply.encode

/-- The session when some bytes of a message have come. -/
def read (handler : Handler σ) (server : Server) (held : List UInt8) (shared : Shared σ) :
    Server × Shared σ :=
  match Channel.readingOf held with
  | .wanting _ => ({ server with session := server.session.turnTo (.reading held) }, shared)
  | .whole frame =>
    let message := received server.session.source frame
    let (session, shared) := server.session.dispatch handler message shared
    (⟨session, outgoing session.stage, server.seen ++ [message]⟩, shared)
  | .refused e =>
    let (session, shared) := server.session.finish (some (.frame e)) shared
    ({ server with session }, shared)

/-- The session when some bytes of a reply are left to be written. -/
def written (handler : Handler σ) (server : Server) (request : Message Handle) (reply : Frame)
    (left : List UInt8) (shared : Shared σ) : Server × Shared σ :=
  if left.isEmpty then
    let (session, shared) :=
      server.session.conclude handler request (.ok reply.encode.length) shared
    ({ server with session, left }, shared)
  else ({ server with left }, shared)

def step? (handler : Handler σ) (most : Nat) (server : Server) (shared : Shared σ) :
    Option (Server × Shared σ) :=
  if server.session.worker.ended.isSome then none
  else
    let source := server.session.source
    match server.session.stage with
    | .reading held =>
      (Channel.readOn? most source shared.fabric held).map fun (held, fabric) =>
        server.read handler held { shared with fabric }
    | .replying request reply =>
      let begun := server.left.length ≠ reply.encode.length
      ((shared.fabric.outgoing source).give? most begun server.left).map fun (left, pipe) =>
        server.written handler request reply left
          { shared with fabric := shared.fabric.withOutgoing source pipe }

end Server

end Conversation

/-! ## Runs -/

/-- Callers that share a channel, and the sessions that serve them. -/
structure Conversation (σ : Type) where
  channel : Channel
  shared : Shared σ
  callers : List Conversation.Caller
  servers : List Conversation.Server

namespace Conversation

variable {σ : Type}

/-- A caller for each list of requests, with a connection of its own to a session. -/
def start (channel : Channel) (state : σ) (peer : String) (wishes : List (List Request)) :
    Conversation σ where
  channel
  shared := ⟨state, List.replicate wishes.length .new, []⟩
  callers := wishes.mapIdx (Caller.start peer)
  servers := (List.range wishes.length).map Server.start

/-- The step that somebody takes, if it is possible. -/
def step? (handler : Handler σ) (c : Conversation σ) : Choice → Option (Conversation σ)
  | .caller number most =>
    (c.callers[number]?).bind fun caller =>
      (caller.step? most c.channel c.shared.fabric).map fun (caller, channel, fabric) =>
        { c with
          channel
          shared := { c.shared with fabric }
          callers := c.callers.set number caller }
  | .server number most =>
    (c.servers[number]?).bind fun server =>
      (server.step? handler most c.shared).map fun (server, shared) =>
        { c with shared, servers := c.servers.set number server }

/-- What some steps lead to, if each of them is possible. -/
def run? (handler : Handler σ) : List Choice → Conversation σ → Option (Conversation σ)
  | [], c => some c
  | choice :: choices, c => (c.step? handler choice).bind (run? handler choices)

end Conversation

end Telematics
