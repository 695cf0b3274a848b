/-
# Telematics.Listener -- accepting connections

A listener has a thread that accepts connections, in the order in which they were
made, and starts a session for each.  Sessions that have ended are forgotten when
the next one starts.

Stopping a listener takes several steps, between which its threads take theirs.
It asks the accepting thread to stop and waits for its end (`requestStop`), takes
the sessions out of the list, asks them to stop and waits for their end
(`drain?`), and is done then (`close?`).
-/
import Telematics.Endpoint
import Telematics.Listener.Session

namespace Telematics

set_option autoImplicit false

open Link

/-- How far a listener is with stopping. -/
inductive Closing where
  | notYet
  /-- It waits for the thread that accepts connections. -/
  | acceptor
  | sessions
  /-- It has been stopped. -/
  | done
  deriving Repr, DecidableEq

/-- Who accepts the connections to an endpoint. -/
structure Listener where
  /-- How its sessions transfer. -/
  settings : Channel.Settings
  /-- Where it listens. -/
  endpoint : Endpoint
  /-- The socket file, if it has one. -/
  path : Option String
  acceptor : Worker
  /-- The connections that have been made and not been accepted. -/
  pending : List Handle
  /-- The number of sessions that have been started. -/
  opened : Nat
  sessions : List Session
  /-- The sessions that a stop waits for. -/
  drained : List Session
  closing : Closing
  deriving DecidableEq

namespace Listener

variable {σ : Type}

/-- A listener that has just been bound. -/
def new (settings : Channel.Settings) (endpoint : Endpoint) (path : Option String) : Listener :=
  ⟨settings, endpoint, path, .start "message-listener", [], 0, [], [], .notYet⟩

/-- The number of sessions that are being served. -/
def activeSessions (l : Listener) : Nat :=
  l.sessions.countP (·.worker.isRunning)

/-- Whether it has been stopped, or somebody is about to. -/
def isStopped (l : Listener) : Bool :=
  l.closing ≠ .notYet

/-! ## The thread that accepts connections -/

def accept? (l : Listener) : Option Listener :=
  match l.acceptor.ended, l.pending with
  | none, source :: pending => some { l with
      pending
      opened := l.opened + 1
      sessions := l.sessions.filter (·.worker.isRunning) ++ [.start (l.opened + 1) source] }
  | _, _ => none

def acceptAll (l : Listener) : Listener :=
  l.pending.foldl (fun l _ => l.accept?.getD l) l

/-- Ends the thread if it has been asked to stop.  Whoever has not been accepted is left alone. -/
def endAccepting? (l : Listener) (f : Fabric) : Option (Listener × Fabric) :=
  if l.acceptor.ended.isNone && l.acceptor.stopRequested then
    some ({ l with acceptor := l.acceptor.exit .returned, pending := [] },
      l.pending.foldl Fabric.leave f)
  else none

/-! ## The steps of stopping -/

/-- Asks the accepting thread to stop.  Only the first who asks has anything to do. -/
def requestStop (l : Listener) : Listener :=
  if l.isStopped then l
  else { l with closing := .acceptor, acceptor := l.acceptor.stop.detach }

/-- Asks the sessions to stop when the accepting thread has ended. -/
def drain? (l : Listener) : Option Listener :=
  if l.closing = .acceptor && l.acceptor.ended.isSome then
    some { l with
      closing := .sessions
      drained := l.sessions.map fun s => { s with worker := s.worker.stop.detach }
      sessions := [] }
  else none

/-- Stopping is done when all the sessions have ended. -/
def close? (l : Listener) : Option Listener :=
  if l.closing = .sessions && l.drained.all (·.worker.ended.isSome) then
    some { l with closing := .done, drained := [] }
  else none

/-! ## All sessions -/

def eachSession (act : Session → Shared σ → Session × Shared σ) (l : Listener)
    (shared : Shared σ) : Listener × Shared σ :=
  let (sessions, shared) := Session.forEach act l.sessions shared
  let (drained, shared) := Session.forEach act l.drained shared
  ({ l with sessions, drained }, shared)

/-- Accepts all connections, and lets the sessions go on as far as they can. -/
def settle (handler : Handler σ) (l : Listener) (shared : Shared σ) : Listener × Shared σ :=
  l.acceptAll.eachSession (Session.catchUp l.settings handler) shared

def pass (handler : Handler σ) (time : Nat) (l : Listener) (shared : Shared σ) :
    Listener × Shared σ :=
  l.eachSession (Session.pass l.settings handler time) shared

/-- The time after which one of the sessions has waited for long enough. -/
def patience? (l : Listener) : Option Nat :=
  ((l.sessions ++ l.drained).filterMap (Session.patience? l.settings)).min?

/-- All the steps of stopping, with those of the threads that it waits for. -/
def stop (handler : Handler σ) (l : Listener) (shared : Shared σ) : Listener × Shared σ :=
  let l := l.requestStop
  let (l, fabric) := (l.endAccepting? shared.fabric).getD (l, shared.fabric)
  let l := l.drain?.getD l
  let (l, shared) :=
    l.eachSession (Session.windUp l.settings handler) { shared with fabric }
  (l.close?.getD l, shared)

end Listener

end Telematics
