/-
# Telematics.Identity.Json -- participants in JSON

A participant is an object with one key, which says what kind of participant it
is: `Fixed` holds the tag of a role and `Named` a name.
-/
import Telematics.Identity
import Telematics.Text.Json

namespace Telematics.Identity

set_option autoImplicit false

open Text

def toJson : Identity → String
  | .fixed role => "\x7b\"Fixed\":" ++ Json.quote role.tag ++ "\x7d"
  | .named name => "\x7b\"Named\":" ++ Json.quote name ++ "\x7d"

/-- Reads what a participant of the kind `tag` is known by. -/
def contentReader (tag : String) : Option (Json.Reader Identity) :=
  if tag = "Fixed" then
    some fun cs => (Json.choice Role.ofTag? cs).map fun (role, rest) => (.fixed role, rest)
  else if tag = "Named" then
    some fun cs => (Json.string cs).map fun (name, rest) => (.named name, rest)
  else none

def reader : Json.Reader Identity :=
  Json.tagged (fun _ => none) contentReader

def ofJson (s : String) : Except Json.Problem Identity :=
  Json.document reader s

end Telematics.Identity
