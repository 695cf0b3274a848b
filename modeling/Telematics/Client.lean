/-
# Telematics.Client -- the client as a whole

A client has a registry and a coordinator with the standard plan, and a bridge by
which those outside reach it.  Starting it binds the bridge's listener and
registers the bridge, which stops its listener and is ready when it is told of
the shutdown.  Shutting down starts the coordinator and waits until it has
completed; only one may begin to wait.

What is refused leaves the client as it was, except that whoever begins to shut
it down has begun, whether or not the coordinator starts then.

`advance` is one step of the coordinator's thread with what it does to the
listener; `elapse` takes as many as there are while nobody else does anything.
-/
import Telematics.Bridge.Handler
import Telematics.Client.Error
import Telematics.Client.Settings
import Telematics.Shutdown.Coordinator
import Telematics.Site

namespace Telematics

set_option autoImplicit false

/-- What receivers do to the surroundings. -/
inductive Client.Effect where
  | stopListener (number : Nat)
  deriving Repr, DecidableEq

/-- The client. -/
structure Client where
  settings : Client.Settings
  site : Site Bridge.State
  coordinator : Shutdown.Coordinator Client.Effect
  /-- The number of the bridge's listener, once the client has been started. -/
  bridge : Option Nat
  /-- Whether nobody has begun to shut the client down. -/
  mayShutDown : Bool

namespace Client

open Shutdown

/-- A client that has not been started. -/
def new (settings : Settings) (around : Surroundings) : Client where
  settings
  site := .new around ⟨false, 0, []⟩
  coordinator := .new .standard settings.timing
  bridge := none
  mayShutDown := true

def registry (c : Client) : Registry (Script Effect) := c.coordinator.course.registry

/-- What handles the messages that reach the bridge. -/
def handler (c : Client) : Handler Bridge.State :=
  Bridge.handler c.registry.snapshot

/-! ## Starting -/

def bridgeId : Identity := .fixed .externalReceiveBridge

/-- What the bridge does when it is told of the shutdown. -/
def bridgeScript (number : Nat) : Script Effect :=
  .perform (.stopListener number) (.markReady bridgeId .done)

def register (c : Client) (id : Identity) (receiver : Option (Script Effect)) :
    Client × Bool × List Notice :=
  let (coordinator, done, notices) := c.coordinator.register id receiver
  ({ c with coordinator }, done, notices)

def start (c : Client) : Except ClientError (Client × List Notice) :=
  if c.bridge.isSome then .error .alreadyStarted
  else
    match c.site.bind c.settings.channel c.settings.listen with
    | .error e => .error (.noBridge c.settings.listen e)
    | .ok site =>
      let number := c.site.listeners.length
      let (c, _, notices) := c.register bridgeId (some (bridgeScript number))
      .ok ({ c with site, bridge := some number }, notices)

/-- Where the bridge listens. -/
def endpoint? (c : Client) : Option Endpoint := do
  let listener ← c.site.listeners[← c.bridge]?
  return listener.endpoint

def follow (c : Client) (script : Script Effect) : Client × Thread Effect :=
  let (coordinator, thread) := c.coordinator.follow script
  ({ c with coordinator }, thread)

/-! ## The request to shut down -/

def withSignal (c : Client) (signal : Bool) : Client :=
  { c with site := { c.site with
      shared := { c.site.shared with state := { c.site.shared.state with signal } } } }

/-- Whether the client has been asked to shut down. -/
def isRequested (c : Client) : Bool := c.site.shared.state.signal

/-- Asks the client to shut down. -/
def requestShutdown (c : Client) : Client := c.withSignal true

/-- Whether the client has been asked to shut down since somebody last looked. -/
def takeRequest (c : Client) : Bool × Client :=
  (c.isRequested, c.withSignal false)

/-! ## Shutting down -/

/-- Does something to the surroundings. -/
def apply (c : Client) : Effect → Client
  | .stopListener number => { c with site := c.site.stop c.handler number }

/-- One step of the coordinator's thread. -/
def advance (c : Client) : Client :=
  let (coordinator, effects) := c.coordinator.advance
  effects.foldl apply { c with coordinator }

/-- Steps of the coordinator's thread until it has to wait, at most so many. -/
def advanceMany : Nat → Client → Client
  | 0, c => c
  | n + 1, c => if c.coordinator.isWaiting then c else advanceMany n c.advance

/-- Lets the coordinator's thread do all that it can while nobody else does anything. -/
def elapse (c : Client) : Client :=
  advanceMany c.coordinator.patience c

/-- Begins to shut the client down; `spawned` says whether there is a thread for the coordinator. -/
def beginShutdown (c : Client) (spawned : Except SystemError Unit) :
    Except ClientError Unit × Client :=
  if c.mayShutDown then
    let c := { c with mayShutDown := false }
    match c.coordinator.start spawned with
    | .ok coordinator => (.ok (), { c with coordinator })
    | .error e => (.error (.noCoordinator e), c)
  else (.error .alreadyShuttingDown, c)

/-- Whether the shutdown has been completed. -/
def isOver (c : Client) : Bool := 0 < c.coordinator.completions

end Client

end Telematics
