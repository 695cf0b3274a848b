/-
# Telematics.Endpoint -- where a listener is found

An endpoint is a socket file, a port of a host, or the socket file that the
settings give as the default.  As a text it is written as the path, as host and
port with a colon between them, and the default as the path that it has when
nothing else is set.

Reading drops blanks at the ends.  Nothing and the word `default`, in any case,
stand for the default.  A text without a slash whose part behind the last colon
is a port number is a host and a port; square brackets around the host are
dropped.  Everything else is a path.
-/
import Telematics.Text.Blank
import Telematics.Text.Decimal

namespace Telematics

set_option autoImplicit false

/-- Where a listener is found. -/
inductive Endpoint where
  /-- The socket file of the settings. -/
  | default
  | file (path : String)
  /-- A port of a host. -/
  | remote (host : String) (port : UInt16)
  deriving Repr, DecidableEq

namespace Endpoint

/-- The socket file when nothing else is set. -/
def defaultPath : String := "/tmp/telematics-client.sock"

def text : Endpoint → String
  | .default => defaultPath
  | .file path => path
  | .remote host port => host ++ ":" ++ Text.Decimal.text port.toNat

/-- The texts before and behind the last occurrence of a character. -/
def splitLast? (separator : Char) : List Char → Option (List Char × List Char)
  | [] => none
  | c :: cs =>
    match splitLast? separator cs with
    | some (before, behind) => some (c :: before, behind)
    | none => if c = separator then some ([], cs) else none

/-- A host without the square brackets around it. -/
def unbracket (cs : List Char) : List Char :=
  ((cs.dropWhile (· = '[')).reverse.dropWhile (· = ']')).reverse

def readPort? (cs : List Char) : Option UInt16 :=
  (Text.Decimal.read 65535 cs).map UInt16.ofNat

/-- The host and port that a text without a slash stands for. -/
def readRemote? (cs : List Char) : Option Endpoint :=
  if '/' ∈ cs then none
  else do
    let (host, digits) ← splitLast? ':' cs
    let port ← readPort? digits
    return .remote (String.ofList (unbracket host)) port

/-- The endpoint that a text without blanks at its ends stands for. -/
def ofTrimmed (cs : List Char) : Endpoint :=
  if cs.isEmpty || cs.map Char.toLower = ['d', 'e', 'f', 'a', 'u', 'l', 't'] then .default
  else (readRemote? cs).getD (.file (String.ofList cs))

def ofText (s : String) : Endpoint :=
  ofTrimmed (Text.trim s.toList)

/-- The endpoint itself, or the socket file at `path` where it is the default. -/
def resolve (path : String) : Endpoint → Endpoint
  | .default => .file path
  | endpoint => endpoint

end Endpoint

end Telematics
