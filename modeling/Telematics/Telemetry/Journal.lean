/-
# Telematics.Telemetry.Journal -- what is written to the log

The parts of the program write events to a journal.  An event is known by the
name of the part, by how detailed it is and by the names of its fields, which is
all that the filter looks at.  Every event has a message.  Standard output shows
the events that the filter lets pass, unless it is turned off.
-/
import Telematics.Telemetry.Filter

namespace Telematics.Telemetry

set_option autoImplicit false

/-- A part of the program that writes to the log. -/
inductive Part where
  | log
  | assembly
  | client
  | program
  | bridge
  | registry
  | coordinator
  | listener
  | channel
  | thread
  deriving Repr, DecidableEq

/-- The name by which filters know a part. -/
def Part.target : Part → String
  | .log => "client_telemetry::tracing_setup"
  | .assembly => "client_runtime::container"
  | .client => "client_runtime::runtime"
  | .program => "client_runtime"
  | .bridge => "client_runtime::bridge"
  | .registry => "tc_01_shutdown_coordinator::registry"
  | .coordinator => "tc_01_shutdown_coordinator::coordinator"
  | .listener => "tc_02_message_channel::listener"
  | .channel => "tc_02_message_channel::channel"
  | .thread => "shared_types::thread"

/-- Something that is written to the log. -/
structure Event where
  part : Part
  level : Level
  /-- The names of what it says besides its message. -/
  details : List String := []
  deriving Repr, DecidableEq

/-- The events, in the order in which they were written. -/
abbrev Journal := List Event

/-- The names of what an event says. -/
def Event.fields (event : Event) : List String :=
  "message" :: event.details

def Filter.passes (filter : Filter) (event : Event) : Bool :=
  filter.shows event.part.target event.fields event.level

/-- Whether anything of a journal is shown on standard output. -/
def Settings.showsAny (settings : Settings) (journal : Journal) : Bool :=
  settings.console &&
    match settings.filter with
    | .ok filter => journal.any filter.passes
    | .error _ => false

end Telematics.Telemetry
