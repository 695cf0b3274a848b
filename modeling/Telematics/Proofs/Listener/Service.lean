/-
# Telematics.Proofs.Listener.Service -- a listener and all its threads

The thread that accepts connections, every session and whoever stops the listener
are threads of their own here, and each step of one of them reads or changes one
thing that others see.  Between any two steps the others may take theirs, peers
may connect, write and go away, and time may pass for anybody who waits.

Accepting a connection is four things: to look whether it is time to stop, to take
the connection, to start a session, and to put the session on the list, from which
those that have ended are struck off one by one.  Stopping is to say so, to ask the
accepting thread and join it, to take all sessions from the list, to ask each of
them and then to join each.  To join a thread is to take its handle and, if that
was there, to wait for the end.

A step that is not possible changes nothing, so every list of moves is a run.  What
has reached the handler is kept (`Service.seen`).
-/
import Telematics.Listener
import Telematics.Proofs.Session.Recording

namespace Telematics

set_option autoImplicit false

open Link

/-- What the thread that accepts connections does next. -/
inductive Accepting where
  /-- It looks whether it has been asked to stop. -/
  | looking
  /-- It waits for a connection. -/
  | polling
  /-- It starts a session for a connection. -/
  | spawning (source : Handle)
  /-- It puts a session on the list once it has struck off those that have ended.  Some it has
  `kept`, and some are `left` to look at. -/
  | sweeping (number : Nat) (kept left : List Nat)
  deriving DecidableEq

/-- What the one who stops a listener does next. -/
inductive Stopping where
  | notYet
  /-- It asks the accepting thread to stop. -/
  | asking
  /-- It takes the handle of the accepting thread. -/
  | claiming
  /-- It waits for the end of the accepting thread. -/
  | joining
  /-- It takes all sessions from the list. -/
  | draining
  /-- It asks the sessions to stop that are `left`. -/
  | askingEach (left : List Nat)
  /-- It takes the handle of the next session that is `left`. -/
  | claimingEach (left : List Nat)
  /-- It waits for the end of a session. -/
  | joiningOne (number : Nat) (left : List Nat)
  /-- It has returned. -/
  | done
  deriving DecidableEq

/-- How far a listener is with stopping, as the listener itself tells it. -/
def Stopping.closing : Stopping → Closing
  | .notYet => .notYet
  | .asking | .claiming | .joining | .draining => .acceptor
  | .askingEach _ | .claimingEach _ | .joiningOne _ _ => .sessions
  | .done => .done

/-- The session that is not on the list yet. -/
def Accepting.newcomer : Accepting → List Nat
  | .sweeping number _ _ => [number]
  | _ => []

/-- The sessions whose handles have still to be taken; `drained` are all that were on the list. -/
def Stopping.unclaimed (drained : List Nat) : Stopping → List Nat
  | .askingEach _ => drained
  | .claimingEach left => left
  | .joiningOne _ left => left
  | _ => []

/-! ## What a session does -/

namespace Session

/-- What can happen to the thread of a session. -/
inductive Act where
  /-- It reads, handles a message or replies. -/
  | serve
  /-- It finds that it has been asked to stop. -/
  | obey
  /-- It waits. -/
  | pass (time : Nat)

variable {σ : Type}

def act? (settings : Channel.Settings) (handler : Handler σ) (session : Session)
    (shared : Shared σ) : Act → Option (Session × Shared σ)
  | .serve => (session.send? settings handler shared).or (session.receive? settings handler shared)
  | .obey => session.stop? shared
  | .pass time => some (session.pass settings handler time shared)

end Session

/-- A listener with all its threads. -/
structure Service (σ : Type) where
  settings : Channel.Settings
  endpoint : Endpoint
  path : Option String
  acceptor : Worker
  accepting : Accepting
  /-- The connections that have been made and not been accepted. -/
  pending : List Handle
  /-- How many numbers have been given to sessions. -/
  opened : Nat
  /-- All sessions that have ever been started, in order. -/
  threads : List Session
  /-- The sessions on the list, by their places among the `threads`. -/
  listed : List Nat
  /-- The sessions that a stop has taken from the list. -/
  drained : List Nat
  stopping : Stopping
  shared : Shared (σ × List (Message Handle))

namespace Service

/-- What happens next. -/
inductive Move (σ : Type) where
  /-- Somebody connects. -/
  | connect (source : Handle)
  /-- The accepting thread takes a step, and is given what it asks the system for or not. -/
  | accept (granted : Bool)
  /-- Something happens to the thread of a session. -/
  | session (number : Nat) (act : Session.Act)
  /-- Whoever stops the listener takes a step. -/
  | stop
  /-- Peers, and whoever shares the state, leave behind what they like. -/
  | others (state : σ) (fabric : Fabric)

variable {σ : Type}

/-- A listener that has just been bound. -/
def start (settings : Channel.Settings) (endpoint : Endpoint) (path : Option String) (state : σ)
    (f : Fabric) : Service σ where
  settings
  endpoint
  path
  acceptor := .start "message-listener"
  accepting := .looking
  pending := []
  opened := 0
  threads := []
  listed := []
  drained := []
  stopping := .notYet
  shared := ⟨(state, []), f, []⟩

/-- The messages that have been handed to the handler, in order. -/
def seen (s : Service σ) : List (Message Handle) := s.shared.state.2

/-- The sessions with certain numbers. -/
def sessionsOf (s : Service σ) (numbers : List Nat) : List Session :=
  numbers.filterMap (s.threads[·]?)

/-- The listener, without what its threads are about. -/
def listener (s : Service σ) : Listener where
  settings := s.settings
  endpoint := s.endpoint
  path := s.path
  acceptor := s.acceptor
  pending := s.pending
  opened := s.opened
  sessions := s.sessionsOf s.listed
  drained := s.sessionsOf s.drained
  closing := s.stopping.closing

/-- The sessions whose handles somebody holds: on the list, on the way there, or taken from it. -/
def unclaimed (s : Service σ) : List Nat :=
  s.listed ++ s.accepting.newcomer ++ s.stopping.unclaimed s.drained

/-- Whether a session still counts as running. -/
def runs (s : Service σ) (number : Nat) : Bool :=
  (s.threads[number]?).any (·.worker.isRunning)

def withFabric (s : Service σ) (fabric : Fabric) : Service σ :=
  { s with shared := { s.shared with fabric } }

/-! ## The steps of the threads -/

/-- A step of the accepting thread. -/
def accept (s : Service σ) (granted : Bool) : Service σ :=
  if s.acceptor.ended.isSome then s
  else
    match s.accepting with
    | .looking =>
      if s.acceptor.stopRequested then
        { s.withFabric (s.pending.foldl Fabric.leave s.shared.fabric) with
          acceptor := s.acceptor.exit .returned
          pending := [] }
      else { s with accepting := .polling }
    | .polling =>
      match granted, s.pending with
      | true, source :: pending => { s with pending, accepting := .spawning source }
      | _, _ => { s with accepting := .looking }
    | .spawning source =>
      if granted then
        { s with
          opened := s.opened + 1
          threads := s.threads ++ [.start (s.opened + 1) source]
          accepting := .sweeping s.threads.length [] s.listed }
      else
        { s.withFabric (s.shared.fabric.leave source) with
          opened := s.opened + 1
          accepting := .looking }
    | .sweeping number kept [] =>
      { s with listed := kept ++ [number], accepting := .looking }
    | .sweeping number kept (next :: left) =>
      let kept := if s.runs next then kept ++ [next] else kept
      { s with listed := kept ++ left, accepting := .sweeping number kept left }

def act (handler : Handler σ) (s : Service σ) (number : Nat) (act : Session.Act) : Service σ :=
  match s.threads[number]? with
  | some session =>
    match session.act? s.settings handler.recording s.shared act with
    | some (session, shared) => { s with threads := s.threads.set number session, shared }
    | none => s
  | none => s

/-- Something is done to the handle of a session. -/
def adjust (s : Service σ) (number : Nat) (change : Worker → Worker) : Service σ :=
  { s with
    threads :=
      match s.threads[number]? with
      | some session => s.threads.set number { session with worker := change session.worker }
      | none => s.threads }

/-- A step of whoever stops the listener. -/
def stop (s : Service σ) : Service σ :=
  match s.stopping with
  | .notYet => { s with stopping := .asking }
  | .asking => { s with acceptor := s.acceptor.stop, stopping := .claiming }
  | .claiming =>
    { s with
      acceptor := s.acceptor.claim.2
      stopping := if s.acceptor.claim.1 then .joining else .draining }
  | .joining => if s.acceptor.joined?.isSome then { s with stopping := .draining } else s
  | .draining => { s with drained := s.listed, listed := [], stopping := .askingEach s.listed }
  | .askingEach [] => { s with stopping := .claimingEach s.drained }
  | .askingEach (next :: left) =>
    { s.adjust next .stop with stopping := .askingEach left }
  | .claimingEach [] => { s with drained := [], stopping := .done }
  | .claimingEach (next :: left) =>
    let waits := (s.threads[next]?).any (·.worker.claim.1)
    { s.adjust next (·.claim.2) with
      stopping := if waits then .joiningOne next left else .claimingEach left }
  | .joiningOne number left =>
    if (s.threads[number]?).any (·.worker.joined?.isSome) then
      { s with stopping := .claimingEach left }
    else s
  | .done => s

def step (handler : Handler σ) (s : Service σ) : Move σ → Service σ
  | .connect source =>
    if s.acceptor.ended.isSome then s else { s with pending := s.pending ++ [source] }
  | .accept granted => s.accept granted
  | .session number act => s.act handler number act
  | .stop => s.stop
  | .others state fabric =>
    { s with shared := { s.shared with state := (state, s.seen), fabric } }

/-- What a number of moves lead to. -/
def run (handler : Handler σ) (s : Service σ) (moves : List (Move σ)) : Service σ :=
  moves.foldl (step handler) s

theorem run_append (handler : Handler σ) (s : Service σ) (moves more : List (Move σ)) :
    s.run handler (moves ++ more) = (s.run handler moves).run handler more :=
  List.foldl_append

theorem run_cons (handler : Handler σ) (s : Service σ) (move : Move σ) (moves : List (Move σ)) :
    s.run handler (move :: moves) = (s.step handler move).run handler moves := rfl

end Service

end Telematics
