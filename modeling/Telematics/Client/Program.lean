/-
# Telematics.Client.Program -- the client from its start to its end

The program reads its settings from the environment, opens the log and starts the
client.  Then it serves those outside until one of them asks it to shut down, and
ends when the shutdown has been completed.  If it cannot open the log, start or
shut down, it says why on standard error and ends with another code.
-/
import Telematics.Client
import Telematics.Telemetry.Journal

namespace Telematics

set_option autoImplicit false

open Telemetry

/-- The end of the program. -/
structure Exit where
  code : UInt32
  /-- What stands on standard error. -/
  report : String
  deriving Repr, DecidableEq

/-- The program, while it runs and when it has ended. -/
structure Program where
  client : Client
  /-- What has been written to the log, without what serving those outside has led to. -/
  journal : Journal
  exit : Option Exit

namespace Program

/-! ## What is written to the log -/

/-- What is written before the client listens. -/
def opening : Journal :=
  [{ part := .log, level := .info, details := ["service", "level", "json"] },
    { part := .assembly, level := .info }, { part := .client, level := .info }]

/-- What is written when the client listens. -/
def started : Journal :=
  [{ part := .thread, level := .debug }, { part := .listener, level := .info },
    { part := .registry, level := .info }, { part := .client, level := .info },
    { part := .program, level := .info }]

/-- What is written when somebody has asked the client to shut down. -/
def requested : Journal :=
  [{ part := .bridge, level := .info, details := ["component", "peer"] },
    { part := .client, level := .info },
    { part := .client, level := .info, details := ["component", "receivers"] }]

/-- What is written when the client has shut down. -/
def shutDown : Journal :=
  [{ part := .coordinator, level := .info }, { part := .listener, level := .info },
    { part := .registry, level := .debug }, { part := .assembly, level := .debug },
    { part := .client, level := .info },
    { part := .log, level := .info, details := ["service"] }]

def warningOf : Bridge.Notice → Event
  | .unknownType _ _ =>
    { part := .bridge, level := .warn, details := ["component", "msg_type", "peer"] }
  | .replyFailed _ _ =>
    { part := .bridge, level := .warn, details := ["component", "seq", "error"] }

def serving (client : Client) : Journal :=
  let shared := client.site.shared
  (List.replicate shared.state.handled { part := .channel, level := .debug }) ++
    shared.state.notices.map warningOf ++
    shared.notices.map fun _ => { part := .listener, level := .warn }

/-- Whether anything has been shown on standard output. -/
def showsAny (p : Program) : Bool :=
  p.client.settings.telemetry.showsAny (p.journal ++ serving p.client)

/-! ## From the start to the end -/

def failed (error : ClientError) : Option Exit :=
  some ⟨1, error.report⟩

/-- Starts the program. -/
def launch (env : Environment) (around : Surroundings) : Program :=
  let client := Client.new (.ofEnvironment env) around
  match client.settings.telemetry.filter with
  | .error e => ⟨client, [], failed (.noLog e)⟩
  | .ok _ =>
    match client.start with
    | .error e => ⟨client, opening, failed e⟩
    | .ok (client, _) => ⟨client, opening ++ started, none⟩

/-- Whether the program runs and somebody has asked it to end. -/
def isRequested (p : Program) : Bool :=
  p.exit.isNone && p.client.isRequested

/-- Ends the program if somebody has asked it to, unless the shutdown has to wait for others. -/
def conclude (p : Program) : Program :=
  if p.isRequested then
    match p.client.takeRequest.2.beginShutdown (.ok ()) with
    | (.error e, client) => ⟨client, p.journal ++ requested, failed e⟩
    | (.ok (), client) =>
      let client := client.elapse
      if client.isOver then ⟨client, p.journal ++ requested ++ shutDown, some ⟨0, ""⟩⟩
      else ⟨client, p.journal ++ requested, none⟩
  else p

end Program

end Telematics
