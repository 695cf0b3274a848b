/-
# Telematics.Site.Caller -- what those who have connected do

A caller writes to its connection and reads from it, and the listener's threads
do their part in between.  Whoever waits for bytes that do not come, or for room
that nobody makes, waits for as long as a transfer may take.
-/
import Telematics.Site

namespace Telematics.Site

set_option autoImplicit false

open Link

variable {σ : Type}

/-! ## Transfers -/

/-- One attempt to read at most `n` bytes, which go behind those read before. -/
def readSome (settings : Channel.Settings) (handler : Handler σ) (caller : Handle) (n : Nat)
    (state : Site σ × List UInt8) : Attempt × (Site σ × List UInt8) :=
  let s := (state.1.settle handler).waitFor handler (·.fabric.isReadable caller)
    settings.transferTimeout.nanoseconds
  let (attempt, (pipe, buffer)) := Pipe.readSome n (s.fabric.incoming caller, state.2)
  (attempt, (s.withFabric (s.fabric.withIncoming caller pipe), buffer))

def read (settings : Channel.Settings) (handler : Handler σ) (caller : Handle) (n : Nat)
    (s : Site σ) : Except LinkError (List UInt8) × Site σ :=
  let (result, (s, buffer)) :=
    (Transfer.mk .read settings.transferTimeout n (readSome settings handler caller)).run true
      (s, [])
  (result.map fun _ => buffer, s.settle handler)

/-- Whether a caller may begin to write, or go on if it has begun. -/
def mayWrite (caller : Handle) (begun : Bool) (s : Site σ) : Bool :=
  !s.fabric.isConnected caller ||
    (if begun then (s.fabric.outgoing caller).hasRoom else (s.fabric.outgoing caller).isWritable)

/-- One attempt to write at most `n` of the bytes that are left of so many. -/
def writeSome (settings : Channel.Settings) (handler : Handler σ) (caller : Handle)
    (total n : Nat) (state : Site σ × List UInt8) : Attempt × (Site σ × List UInt8) :=
  let may := mayWrite caller (n ≠ total)
  let s := (state.1.settle handler).waitFor handler may settings.transferTimeout.nanoseconds
  if may s then
    let (attempt, (pipe, rest)) := Pipe.writeSome n (s.fabric.outgoing caller, state.2)
    (attempt, (s.withFabric (s.fabric.withOutgoing caller pipe), rest))
  else (.blocked, (s, state.2))

def write (settings : Channel.Settings) (handler : Handler σ) (caller : Handle)
    (bytes : List UInt8) (s : Site σ) : Except LinkError Nat × Site σ :=
  let (result, (s, _)) :=
    (Transfer.mk .write settings.transferTimeout bytes.length
      (writeSome settings handler caller bytes.length)).run true (s, bytes)
  (result, s.settle handler)

/-- Reads what has come, and what comes once there is room for it, in at most so many turns. -/
def readAll (handler : Handler σ) (caller : Handle) : Nat → Site σ → List UInt8 × Site σ
  | 0, s => ([], s)
  | n + 1, s =>
    let queued := s.fabric.queued caller
    if queued.isEmpty then ([], s)
    else
      let (_, (pipe, _)) := Pipe.readSome queued.length (s.fabric.incoming caller, [])
      let s := (s.withFabric (s.fabric.withIncoming caller pipe)).settle handler
      let (more, s) := readAll handler caller n s
      (queued ++ more, s)

/-! ## Messages -/

def readFrame (settings : Channel.Settings) (handler : Handler σ) (caller : Handle)
    (s : Site σ) : Except ChannelError Frame × Site σ :=
  Channel.readFrame (read settings handler caller) s

def receive (settings : Channel.Settings) (handler : Handler σ) (caller : Handle) (s : Site σ) :
    Except ChannelError (Message Handle) × Site σ :=
  let (result, s) := readFrame settings handler caller s
  (result.map fun frame => ⟨frame, some caller⟩, s)

/-- Sends a message, and waits for the reply if one is wanted. -/
def send (settings : Channel.Settings) (handler : Handler σ) (message : Message Handle)
    (wantsReply : Bool) (s : Site σ) :
    Except ChannelError (Option Payload) × Site σ × List Channel.Notice :=
  match Channel.outbound s.fabric message wantsReply with
  | .error e => (.error e, s, [])
  | .ok (destination, message) =>
    match write settings handler destination message.frame.encode s with
    | (.error e, s) => (.error (.link e), s, [])
    | (.ok _, s) =>
      if wantsReply then
        let (result, s) := readFrame settings handler destination s
        let result := result >>= Channel.answerIn message.frame
        (result.map some, s, Channel.noticesOf destination result)
      else (.ok none, s, [])

/-! ## Leaving -/

def endWriting (handler : Handler σ) (caller : Handle) (s : Site σ) : Site σ :=
  (s.withFabric (s.fabric.endWriting caller)).settle handler

def leave (handler : Handler σ) (caller : Handle) (s : Site σ) : Site σ :=
  (s.withFabric (s.fabric.leave caller)).settle handler

end Telematics.Site
