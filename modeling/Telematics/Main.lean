/-
# Telematics.Main -- the client as a program

The settings come from the environment.  Standard input and standard output are
the two directions of a connection to the bridge: what is read is what the caller
writes, and what is written is what the caller reads.  The end of the input is as
good as a request to shut down.  Why the program fails stands on standard error.
-/
import Telematics.Client.Program
import Telematics.Site.Caller

namespace Telematics.Main

set_option autoImplicit false

open Link

/-- The names under which the environment holds settings. -/
def names : List String :=
  ["TC_LISTEN_ADDR", "TC_SOCKET_PATH", "TC_CONNECT_TIMEOUT_MS", "TC_IO_TIMEOUT_MS",
    "TC_SHUTDOWN_GRACE_MS", "TC_SHUTDOWN_TICK_MS", "TC_SERVICE_NAME", "TC_LOG_LEVEL", "RUST_LOG",
    "TC_CONSOLE_OUTPUT", "TC_JSON_LOGS"]

def directoriesTo (path : String) : FileTree :=
  let parts := (Path.parts path).filter (· ≠ ".")
  let way := if Path.isRooted path then parts else FileTree.workingDirectory ++ parts
  (List.range way.length).map fun n => (way.take n, .directory)

/-- A place on an isolated machine where nothing stands in the way of the client. -/
def surroundings (settings : Client.Settings) : Surroundings where
  files := directoriesTo (settings.channel.resolve settings.listen).text
  network := .isolated 49152

/-- The caller writes some bytes, and reads what has come for it. -/
def exchange (p : Program) (caller : Handle) (bytes : List UInt8) : Program × List UInt8 :=
  let client := p.client
  let (_, site) := Site.write client.settings.channel client.handler caller bytes client.site
  let (come, site) := site.readAll client.handler caller (bytes.length + 1)
  ({ p with client := { client with site } }, come)

/-- Serves the caller until it has asked the client to shut down. -/
partial def serve (input output : IO.FS.Stream) (caller : Handle) (p : Program) : IO Program := do
  let bytes ← input.read 4096
  if bytes.isEmpty then
    return { p with client := p.client.requestShutdown }
  let (p, come) := exchange p caller bytes.toList
  output.write ⟨come.toArray⟩
  output.flush
  if p.isRequested then return p else serve input output caller p

/-- Ends the program. -/
def finish (p : Program) : IO UInt32 := do
  match p.exit with
  | some exit =>
    (← IO.getStderr).putStr exit.report
    return exit.code
  | none => return 1

end Telematics.Main

section

open Telematics

def main : IO UInt32 := do
  let texts ← Main.names.filterMapM fun name => do
    return (← IO.getEnv name).map fun text => (name, text)
  let env := Environment.ofList texts
  let p := Program.launch env (Main.surroundings (.ofEnvironment env))
  match p.client.site.connectTo 0 Link.unnamed with
  | .error _ => Main.finish p
  | .ok (caller, site) =>
    let p := { p with client := { p.client with site } }
    let p ← Main.serve (← IO.getStdin) (← IO.getStdout) caller p
    Main.finish p.conclude

end
