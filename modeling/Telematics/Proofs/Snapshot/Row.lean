/-
# Telematics.Proofs.Snapshot.Row -- what a snapshot shows of a participant

A snapshot shows of each participant who it is, by which name it goes, and how
far it is.  The name follows from who it is, so a row tells no more than its
participant and its status (`Row.of_injective`); but it is written with the
others (`Snapshot.toJson_eq`), and whoever reads a snapshot gets it from there.
-/
import Mathlib.Data.List.Basic
import Telematics.Shutdown.Snapshot

namespace Telematics.Shutdown

set_option autoImplicit false

open Text

/-- What a snapshot shows of a participant. -/
structure Row where
  id : Identity
  name : String
  status : Status
  deriving Repr, DecidableEq

namespace Row

def of (entry : Identity × Status) : Row := ⟨entry.1, entry.1.name, entry.2⟩

def toJson (row : Row) : String :=
  "\x7b\"identity\":" ++ row.id.toJson ++ ",\"name\":" ++ Json.quote row.name ++
    ",\"status\":" ++ row.status.toJson ++ "\x7d"

theorem of_injective : Function.Injective of := by
  intro entry entry' same
  injection same with own name far
  exact Prod.ext own far

end Row

/-- What a snapshot shows. -/
def Snapshot.shown (rows : Snapshot) : List Row := rows.map Row.of

theorem Snapshot.shown_injective : Function.Injective Snapshot.shown :=
  Row.of_injective.list_map

/-- What a snapshot shows is what is written of it. -/
theorem Snapshot.toJson_eq (rows : Snapshot) :
    rows.toJson = "[" ++ ",".intercalate (rows.shown.map Row.toJson) ++ "]" := by
  rw [shown, List.map_map]
  rfl

end Telematics.Shutdown
