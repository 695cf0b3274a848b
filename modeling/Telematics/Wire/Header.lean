/-
# Telematics.Wire.Header -- the first 24 bytes of a frame

A frame begins with a marker of eight bytes.  Four words follow: the type, the
flags, the sequence number and the number of payload bytes behind the header.
The marker is looked at before anything else, so bytes that are no frame are
told from a frame that is not complete as soon as the marker is there.
-/
import Telematics.Text.Decimal
import Telematics.Wire.Word

namespace Telematics

set_option autoImplicit false

/-- Why some bytes are not a frame. -/
inductive FrameError where
  | badMarker
  /-- There have to be more of them. -/
  | truncated (needed available : Nat)
  /-- The header announces more payload than a frame may hold. -/
  | lengthTooLarge (length limit : Nat)
  /-- The number at the place of the type is not positive. -/
  | invalidType (code : Int32)
  deriving Repr, DecidableEq

def FrameError.message : FrameError → String
  | .badMarker => "Invalid sync marker"
  | .truncated needed available =>
    "Truncated frame: need " ++ Text.Decimal.text needed ++ " bytes, have " ++
      Text.Decimal.text available
  | .lengthTooLarge length limit =>
    "Declared payload length " ++ Text.Decimal.text length ++ " exceeds maximum " ++
      Text.Decimal.text limit
  | .invalidType code =>
    "Invalid message type " ++ Text.Decimal.signed code.toInt ++ " on the wire"

namespace Wire

/-- The bytes that every frame begins with: `TCMSGv01`. -/
def marker : List UInt8 :=
  [0x54, 0x43, 0x4D, 0x53, 0x47, 0x76, 0x30, 0x31]

/-- The number of bytes before the payload. -/
def headerLength : Nat := 24

/-- The fields behind the marker. -/
structure Header where
  code : Int32
  flags : UInt32
  sequence : UInt32
  length : UInt32
  deriving Repr, DecidableEq

namespace Header

/-- The bytes of a header, the marker included. -/
def encode (header : Header) : List UInt8 :=
  marker ++ (word header.code.toUInt32 ++ (word header.flags ++
    (word header.sequence ++ word header.length)))

/-- Takes the fields from the front of some bytes. -/
def readFields? (bytes : List UInt8) : Option Header := do
  let (code, rest) ← readWord? bytes
  let (flags, rest) ← readWord? rest
  let (sequence, rest) ← readWord? rest
  let (length, _) ← readWord? rest
  return ⟨code.toInt32, flags, sequence, length⟩

/-- The header at the front of some bytes. -/
def parse (bytes : List UInt8) : Except FrameError Header :=
  if bytes.length < marker.length then .error (.truncated headerLength bytes.length)
  else if bytes.take marker.length ≠ marker then .error .badMarker
  else
    match readFields? (bytes.drop marker.length) with
    | some header => .ok header
    | none => .error (.truncated headerLength bytes.length)

@[simp] theorem length_encode (header : Header) : header.encode.length = headerLength := rfl

/-- A header is found where it was written. -/
theorem parse_encode (header : Header) (rest : List UInt8) :
    parse (header.encode ++ rest) = .ok header := by
  have hm : marker.length = 8 := rfl
  have hlen : ¬ (header.encode ++ rest).length < marker.length := by
    rw [List.length_append, length_encode, hm, headerLength]; omega
  have htake : (header.encode ++ rest).take marker.length = marker := by
    simp [encode, List.append_assoc]
  have hdrop : (header.encode ++ rest).drop marker.length =
      word header.code.toUInt32 ++ (word header.flags ++
        (word header.sequence ++ (word header.length ++ rest))) := by
    simp [encode, List.append_assoc]
  have hread : readFields? ((header.encode ++ rest).drop marker.length) = some header := by
    rw [hdrop]
    simp [readFields?]
  simp only [parse, hlen, htake, hread, if_false, ne_eq, not_true_eq_false]

end Header

/-- The number of payload bytes that a header announces. -/
def peekLength (bytes : List UInt8) : Except FrameError Nat := do
  let header ← Header.parse bytes
  return header.length.toNat

end Wire

end Telematics
