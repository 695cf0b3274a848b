/-
# Telematics.Site -- listeners and those who connect to them

A site is a place with files, a network, and the listeners that have been bound
there, which are known by their numbers.  Binding a socket file removes a socket
that is found at its path, and stopping removes what is found there then.  A
socket file without its listener stays, and nobody listens to it.

Whoever connects is accepted and served as soon as the threads of the listener
come to it (`settle`).  Time passes only for those who wait: whoever waits for
something lets the threads that wait meanwhile give up in turn (`waitFor`).
-/
import Telematics.Channel.Connect
import Telematics.Listener

namespace Telematics

set_option autoImplicit false

open Link

/-- A place with listeners. -/
structure Site (σ : Type) where
  around : Surroundings
  /-- The listeners that have been bound, in order. -/
  listeners : List Listener
  shared : Shared σ

namespace Site

variable {σ : Type}

def new (around : Surroundings) (state : σ) : Site σ :=
  ⟨around, [], ⟨state, [], []⟩⟩

def withFiles (s : Site σ) (files : FileTree) : Site σ :=
  { s with around := { s.around with files } }

def withFabric (s : Site σ) (fabric : Fabric) : Site σ :=
  { s with shared := { s.shared with fabric } }

def fabric (s : Site σ) : Fabric := s.shared.fabric

/-! ## Binding and connecting -/

def bindFile (settings : Channel.Settings) (s : Site σ) (path : String) :
    Except LinkError (Site σ) :=
  match s.around.files.clear path >>= (·.bind path s.listeners.length) with
  | .ok files =>
    .ok { s.withFiles files with
      listeners := s.listeners ++ [.new settings (.file path) (some path)] }
  | .error e => .error (.io e)

def bindRemote (settings : Channel.Settings) (s : Site σ) (host : String) (port : UInt16) :
    Except LinkError (Site σ) :=
  let network := s.around.network
  let claimed := do
    let address ← network.resolve host
    let port ← network.claim address port
    return Endpoint.remote address.text port
  match claimed with
  | .ok endpoint => .ok { s with listeners := s.listeners ++ [.new settings endpoint none] }
  | .error e => .error (.io e)

/-- Binds a listener, whose number is that of the listeners before. -/
def bind (settings : Channel.Settings) (s : Site σ) (endpoint : Endpoint) :
    Except LinkError (Site σ) :=
  match settings.resolve endpoint with
  | .file path => s.bindFile settings path
  | .default => s.bindFile settings settings.path
  | .remote host port => s.bindRemote settings host port

/-- The site after something has happened to a listener and what the sessions share. -/
def update (s : Site σ) (number : Nat) (result : Listener × Shared σ) : Site σ :=
  { s with listeners := s.listeners.set number result.1, shared := result.2 }

/-- Makes a connection to a listener, which waits to be accepted; `peer` is how the listener is
shown. -/
def connectTo (s : Site σ) (number : Nat) (peer : String) : Except LinkError (Handle × Site σ) :=
  match s.listeners[number]? with
  | some l =>
    let (fabric, near, far) := s.fabric.connect peer
    .ok (near, s.update number ({ l with pending := l.pending ++ [far] }, { s.shared with fabric }))
  | none => .error (.connect peer .connectionRefused)

/-- Makes a connection to whoever listens at an endpoint. -/
def connect (settings : Channel.Settings) (s : Site σ) (endpoint : Endpoint) :
    Except LinkError (Handle × Site σ) := do
  let number ← Channel.locate settings s.around endpoint
  s.connectTo number (settings.resolve endpoint).text

/-! ## The threads of the listeners -/

def eachListener (act : Listener → Shared σ → Listener × Shared σ) (s : Site σ) : Site σ :=
  (List.range s.listeners.length).foldl (fun s number =>
    match s.listeners[number]? with
    | some l => s.update number (act l s.shared)
    | none => s) s

/-- Connections are accepted, what has arrived is read, and replies are written as far as there
is room. -/
def settle (handler : Handler σ) (s : Site σ) : Site σ :=
  s.eachListener (Listener.settle handler)

/-- Some time passes, and who has waited for long enough goes on. -/
def pass (handler : Handler σ) (time : Nat) (s : Site σ) : Site σ :=
  (s.eachListener (Listener.pass handler time)).settle handler

/-- The time after which one of the sessions has waited for long enough. -/
def patience? (s : Site σ) : Option Nat :=
  (s.listeners.filterMap Listener.patience?).min?

/-- Somebody waits until something is so, but no longer than `time`.  The sessions have begun to
wait before, so of two who give up at the same time a session does first. -/
def waitFor (handler : Handler σ) (isSo : Site σ → Bool) (time : Nat) (s : Site σ) : Site σ :=
  if isSo s || time = 0 then s
  else
    match s.patience? with
    | none => s
    | some left =>
      if left ≤ time then waitFor handler isSo (time - max left 1) (s.pass handler left)
      else s.pass handler time
termination_by time
decreasing_by
  rename_i h _
  have : time ≠ 0 := by simp_all
  omega

/-! ## Stopping -/

/-- The files when a listener that has been bound to a path has been stopped. -/
def filesAfter (files : FileTree) (number : Nat) (path : String) : FileTree :=
  let files := files.silence number
  (files.remove path).toOption.getD files

/-- Stops a listener and waits until that is done. -/
def stop (handler : Handler σ) (s : Site σ) (number : Nat) : Site σ :=
  match s.listeners[number]? with
  | none => s
  | some l =>
    if l.isStopped then s
    else
      let s := s.update number (l.stop handler s.shared)
      match l.path with
      | some path => s.withFiles (filesAfter s.around.files number path)
      | none => s

end Site

end Telematics
