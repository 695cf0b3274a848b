/-
# Telematics.Listener.Session -- serving one connection

A session reads frame after frame from its connection and hands every message to
a handler.  It takes the bytes of a frame as they come and holds them until the
frame is complete; a reply waits until there is room for it.  While a session
waits for the rest of a frame or for room, it does not look whether it has been
asked to stop.  It ends when it is asked to stop, when the other side has closed,
and when what arrives is no frame, does not come in time or cannot be read; then
it goes away from its connection.  A reply that cannot be sent does not end it.

`receive?`, `send?`, `stop?` and `giveUp` are the steps of a session.  `catchUp`
takes as many steps as what has arrived, and the room there is, allows.
-/
import Telematics.Listener.Handler
import Telematics.Worker

namespace Telematics

set_option autoImplicit false

open Link

/-- A session ended because of what it met on its connection. -/
structure Session.Notice where
  session : String
  error : ChannelError
  deriving Repr, DecidableEq

def Session.Notice.message (n : Session.Notice) : String :=
  "[Listener] " ++ n.session ++ " dropped: " ++ n.error.text

/-- What sessions and handlers share. -/
structure Shared (σ : Type) where
  state : σ
  fabric : Fabric
  /-- Why sessions have ended, in order. -/
  notices : List Session.Notice

/-- What a session is about. -/
inductive Session.Stage where
  /-- It reads a frame, and holds what has come of it. -/
  | reading (held : List UInt8)
  /-- It replies to a message with a frame. -/
  | replying (request : Message Handle) (reply : Frame)
  deriving DecidableEq

/-- The thread that serves a connection. -/
structure Session where
  worker : Worker
  source : Handle
  stage : Session.Stage
  /-- How long it has waited for the rest of a frame, or for room. -/
  waited : Span
  deriving DecidableEq

namespace Session

variable {σ : Type}

/-- The session with a number, which serves a connection. -/
def start (number : Nat) (source : Handle) : Session :=
  ⟨.start ("message-session-" ++ Text.Decimal.text number), source, .reading [], ⟨0⟩⟩

/-- The session at another stage, where it has not waited yet. -/
def turnTo (session : Session) (stage : Stage) : Session :=
  { session with stage, waited := ⟨0⟩ }

/-- Whether a failure is the good end of a connection. -/
def isClosing : ChannelError → Bool
  | .link e => e.peerClosed
  | _ => false

/-- The end of a session, of which somebody is told if there is a reason to. -/
def finish (session : Session) (reason : Option ChannelError) (shared : Shared σ) :
    Session × Shared σ :=
  let notices := ((reason.filter (!isClosing ·)).map (Notice.mk session.worker.name)).toList
  ({ session.turnTo (.reading []) with worker := session.worker.exit .returned },
   { shared with
      fabric := shared.fabric.leave session.source
      notices := shared.notices ++ notices })

/-! ## Reading and replying -/

/-- Hands a message to the handler, and turns to the reply if there is one. -/
def dispatch (handler : Handler σ) (session : Session) (message : Message Handle)
    (shared : Shared σ) : Session × Shared σ :=
  match handler.take shared.state message with
  | (state, none) => (session.turnTo (.reading []), { shared with state })
  | (state, some payload) =>
    match Channel.replyTo message payload >>= (Channel.outbound shared.fabric · false) with
    | .ok (_, reply) => (session.turnTo (.replying message reply.frame), { shared with state })
    | .error e =>
      (session.turnTo (.reading []),
        { shared with state := handler.note state message (.error e) })

/-- Whether there is nothing that a session could go on reading. -/
def isIdle (session : Session) (held : List UInt8) (f : Fabric) : Bool :=
  session.worker.ended.isSome || (held.isEmpty && !f.isReadable session.source)

/-- Reads what has arrived, up to the end of a frame, and hands a message on. -/
def receive? (settings : Channel.Settings) (handler : Handler σ) (session : Session)
    (shared : Shared σ) : Option (Session × Shared σ) :=
  match session.stage with
  | .replying _ _ => none
  | .reading held =>
    if session.isIdle held shared.fabric then none
    else
      let queued := shared.fabric.queued session.source
      match Channel.receive settings (shared.fabric.putBack session.source held)
          session.source with
      | (.ok message, fabric) => some (session.dispatch handler message { shared with fabric })
      | (.error (.link (.timeout _ _)), fabric) =>
        if queued.isEmpty then none
        else some (session.turnTo (.reading (held ++ queued)), { shared with fabric })
      | (.error e, fabric) => some (session.finish (some e) { shared with fabric })

/-- Takes note of what has become of a reply, and turns to the next frame. -/
def conclude (handler : Handler σ) (session : Session) (request : Message Handle)
    (result : Except LinkError Nat) (shared : Shared σ) : Session × Shared σ :=
  (session.turnTo (.reading []),
   { shared with
      state := handler.note shared.state request ((result.map fun _ => ()).mapError .link) })

/-- Writes the reply, if it does not have to wait for its reader. -/
def send? (settings : Channel.Settings) (handler : Handler σ) (session : Session)
    (shared : Shared σ) : Option (Session × Shared σ) :=
  match session.stage with
  | .reading _ => none
  | .replying request reply =>
    match shared.fabric.write session.source settings.transferTimeout reply.encode with
    | (.error (.timeout _ _), _) => none
    | (result, fabric) => some (session.conclude handler request result { shared with fabric })

/-- Ends a session that has been asked to stop, unless it is in a frame or replies. -/
def stop? (session : Session) (shared : Shared σ) : Option (Session × Shared σ) :=
  if session.worker.ended.isNone && session.worker.stopRequested &&
      session.stage = .reading [] then
    some (session.finish none shared)
  else none

/-- Takes steps until there is nothing to read and no room to reply, at most so many. -/
def goOn (settings : Channel.Settings) (handler : Handler σ) :
    Nat → Session → Shared σ → Session × Shared σ
  | 0, session, shared => (session, shared)
  | n + 1, session, shared =>
    match (session.send? settings handler shared).or
        (session.receive? settings handler shared) with
    | some (session, shared) => goOn settings handler n session shared
    | none => (session, shared)

/-- Reads all that has arrived, and replies as far as there is room.  Of two steps one takes a
byte at least, but for the last ones. -/
def catchUp (settings : Channel.Settings) (handler : Handler σ) (session : Session)
    (shared : Shared σ) : Session × Shared σ :=
  goOn settings handler (2 * (shared.fabric.queued session.source).length + 4) session shared

/-! ## Waiting -/

/-- Whether a session that has caught up waits for the rest of a frame, or for room. -/
def isWaiting (session : Session) : Bool :=
  session.worker.ended.isNone && session.stage ≠ .reading []

/-- For how much longer a session would wait. -/
def patience? (settings : Channel.Settings) (session : Session) : Option Nat :=
  if session.isWaiting then
    some (settings.transferTimeout.nanoseconds - session.waited.nanoseconds)
  else none

/-- A session has waited for long enough: without the rest of a frame it ends, and a reply has not
been sent. -/
def giveUp (settings : Channel.Settings) (handler : Handler σ) (session : Session)
    (shared : Shared σ) : Session × Shared σ :=
  match session.stage with
  | .reading _ => session.finish (some (.link (.timeout .read settings.transferTimeout))) shared
  | .replying request _ =>
    session.conclude handler request (.error (.timeout .write settings.transferTimeout)) shared

def pass (settings : Channel.Settings) (handler : Handler σ) (time : Nat) (session : Session)
    (shared : Shared σ) : Session × Shared σ :=
  match session.patience? settings with
  | none => (session, shared)
  | some left =>
    if left ≤ time then session.giveUp settings handler shared
    else ({ session with waited := ⟨session.waited.nanoseconds + time⟩ }, shared)

/-- As much time passes as a session that has been asked to stop has to wait, and it ends. -/
def windUp (settings : Channel.Settings) (handler : Handler σ) (session : Session)
    (shared : Shared σ) : Session × Shared σ :=
  let (session, shared) :=
    if session.isWaiting then session.giveUp settings handler shared else (session, shared)
  (session.stop? shared).getD (session, shared)

/-! ## Several sessions -/

def forEach (act : Session → Shared σ → Session × Shared σ) :
    List Session → Shared σ → List Session × Shared σ
  | [], shared => ([], shared)
  | session :: rest, shared =>
    let (session, shared) := act session shared
    let (rest, shared) := forEach act rest shared
    (session :: rest, shared)

/-! ## The end of a session -/

/-- A session that has finished has ended. -/
@[simp] theorem ended_finish (session : Session) (reason : Option ChannelError)
    (shared : Shared σ) : (session.finish reason shared).1.worker.ended = some .returned := rfl

/-- A session that has ended reads nothing any more. -/
theorem receive?_eq_none_of_ended (settings : Channel.Settings) (handler : Handler σ)
    {session : Session} (shared : Shared σ) (h : session.worker.ended.isSome) :
    session.receive? settings handler shared = none := by
  unfold receive?
  split
  · rfl
  · simp [isIdle, h]

/-- A session that replies reads nothing until it has done. -/
theorem receive?_eq_none_of_replying (settings : Channel.Settings) (handler : Handler σ)
    {session : Session} (shared : Shared σ) {request : Message Handle} {reply : Frame}
    (h : session.stage = .replying request reply) :
    session.receive? settings handler shared = none := by
  simp [receive?, h]

end Session

end Telematics
