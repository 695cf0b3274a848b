/-
# Telematics.Status.Json -- statuses in JSON

A status is written as its word.
-/
import Telematics.Status
import Telematics.Text.Json

namespace Telematics.Status

set_option autoImplicit false

open Text

def toJson (status : Status) : String :=
  Json.quote status.text

def reader : Json.Reader Status :=
  Json.choice ofText?

def ofJson (s : String) : Except Json.Problem Status :=
  Json.document reader s

end Telematics.Status
