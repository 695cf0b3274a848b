/-
# Telematics.Shutdown.Snapshot -- the registry as others see it

A snapshot is written in JSON as the list of the participants in their order,
each with its name and its status.
-/
import Telematics.Identity.Json
import Telematics.Shutdown.Registry
import Telematics.Status.Json

namespace Telematics.Shutdown

set_option autoImplicit false

/-- The participants with their statuses. -/
abbrev Snapshot := List (Identity × Status)

namespace Snapshot

open Text

def rowJson (row : Identity × Status) : String :=
  "\x7b\"identity\":" ++ row.1.toJson ++ ",\"name\":" ++ Json.quote row.1.name ++
    ",\"status\":" ++ row.2.toJson ++ "\x7d"

def toJson (rows : Snapshot) : String :=
  "[" ++ ",".intercalate (rows.map rowJson) ++ "]"

def bytes (rows : Snapshot) : List UInt8 :=
  rows.toJson.toUTF8.toList

end Snapshot

end Telematics.Shutdown
