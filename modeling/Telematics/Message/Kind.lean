/-
# Telematics.Message.Kind -- types of messages

The type of a message is a positive 32-bit number; what it means is up to those
who exchange the messages.  A number that is not positive is no type.
-/
import Telematics.Text.Decimal

namespace Telematics

set_option autoImplicit false

/-- Why something cannot be a message. -/
inductive MessageError where
  /-- The number is not positive. -/
  | invalidType (code : Int32)
  /-- A payload of this many bytes reaches the limit. -/
  | payloadTooLarge (length limit : Nat)
  deriving Repr, DecidableEq

def MessageError.message : MessageError → String
  | .invalidType code => "Message type must be positive, got " ++ Text.Decimal.signed code.toInt
  | .payloadTooLarge length limit =>
    "Payload of " ++ Text.Decimal.text length ++ " bytes reaches the " ++
      Text.Decimal.text limit ++ " byte limit"

/-- The type of a message. -/
structure MessageType where
  code : Int32
  positive : 0 < code
  deriving DecidableEq

namespace MessageType

/-- The type with a number, if it is positive. -/
def ofCode? (code : Int32) : Option MessageType :=
  if h : 0 < code then some ⟨code, h⟩ else none

/-- The type with a number, or why there is none. -/
def ofCode (code : Int32) : Except MessageError MessageType :=
  match ofCode? code with
  | some type => .ok type
  | none => .error (.invalidType code)

def text (type : MessageType) : String :=
  Text.Decimal.signed type.code.toInt

@[simp] theorem ofCode?_code (type : MessageType) : ofCode? type.code = some type := by
  simp [ofCode?, type.positive]

theorem ofCode?_eq_none_iff {code : Int32} : ofCode? code = none ↔ ¬ 0 < code := by
  unfold ofCode?
  split <;> simp_all

@[simp] theorem ofCode_code (type : MessageType) : ofCode type.code = .ok type := by
  simp [ofCode]

end MessageType

end Telematics
