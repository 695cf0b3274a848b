/-
# Telematics.Message.Payload -- what a message carries

A payload holds at most 65536 bytes.  One that is made here stays below that
limit; one that arrives may reach it.
-/
import Telematics.Message.Kind

namespace Telematics

set_option autoImplicit false

/-- The greatest number of bytes that a payload may hold. -/
def Payload.limit : Nat := 65536

/-- The bytes that a message carries. -/
structure Payload where
  bytes : List UInt8
  length_le : bytes.length ≤ Payload.limit
  deriving DecidableEq

namespace Payload

def empty : Payload := ⟨[], Nat.zero_le _⟩

def length (payload : Payload) : Nat := payload.bytes.length

/-- A payload made here, which has to stay below the limit. -/
def ofBytes (bytes : List UInt8) : Except MessageError Payload :=
  if h : bytes.length < limit then .ok ⟨bytes, Nat.le_of_lt h⟩
  else .error (.payloadTooLarge bytes.length limit)

theorem ofBytes_eq_ok_iff {bytes : List UInt8} {payload : Payload} :
    ofBytes bytes = .ok payload ↔ bytes.length < limit ∧ payload.bytes = bytes := by
  unfold ofBytes
  split
  · rename_i h
    constructor
    · rintro ⟨rfl⟩; exact ⟨h, rfl⟩
    · rintro ⟨_, rfl⟩; rfl
  · rename_i h
    simp [h]

end Payload

end Telematics
