/-
# Telematics.Wire.Frame -- frames as bytes

A frame is its header and its payload.  Of the flags only the lowest has a
meaning, a reply being asked for; the others are zero in what is written and
ignored in what is read.

`decode` looks at the marker, the header, the type, the announced length and the
payload, in this order, and never beyond the announced length.  `decode_encode`
says that it takes back what was written, whatever follows.
-/
import Telematics.Message
import Telematics.Wire.Header

namespace Telematics

set_option autoImplicit false

open Wire

def Wire.flagsOf (replyRequired : Bool) : UInt32 :=
  if replyRequired then 1 else 0

def Wire.asksReply (flags : UInt32) : Bool :=
  flags.toNat % 2 = 1

@[simp] theorem Wire.asksReply_flagsOf (replyRequired : Bool) :
    asksReply (flagsOf replyRequired) = replyRequired := by
  cases replyRequired <;> decide

namespace Frame

def header (frame : Frame) : Header :=
  { code := frame.type.code
    flags := flagsOf frame.replyRequired
    sequence := frame.sequence
    length := UInt32.ofNat frame.payload.length }

def encode (frame : Frame) : List UInt8 :=
  frame.header.encode ++ frame.payload.bytes

/-- The payload of `length` bytes at the front of some bytes; `before` bytes precede it. -/
def readPayload (before length : Nat) (bytes : List UInt8) : Except FrameError Payload :=
  if h : length ≤ Payload.limit then
    if bytes.length < length then .error (.truncated (before + length) (before + bytes.length))
    else .ok ⟨bytes.take length, by rw [List.length_take]; omega⟩
  else .error (.lengthTooLarge length Payload.limit)

/-- The frame at the front of some bytes. -/
def decode (bytes : List UInt8) : Except FrameError Frame := do
  let header ← Header.parse bytes
  match MessageType.ofCode? header.code with
  | none => throw (.invalidType header.code)
  | some type =>
    let payload ← readPayload headerLength header.length.toNat (bytes.drop headerLength)
    return ⟨type, header.sequence, asksReply header.flags, payload⟩

theorem length_header (frame : Frame) : frame.header.length.toNat = frame.payload.length := by
  have h := frame.payload.length_le
  simp only [header, Payload.length, UInt32.toNat_ofNat', Payload.limit] at *
  omega

theorem length_encode (frame : Frame) :
    frame.encode.length = headerLength + frame.payload.length := by
  simp [encode, Payload.length]

/-- What was written is taken back, whatever follows. -/
theorem decode_encode (frame : Frame) (rest : List UInt8) :
    decode (frame.encode ++ rest) = .ok frame := by
  have hparse : Header.parse (frame.encode ++ rest) = .ok frame.header := by
    rw [encode, List.append_assoc, Header.parse_encode]
  have hdrop : (frame.encode ++ rest).drop headerLength = frame.payload.bytes ++ rest := by
    rw [encode, List.append_assoc, ← Header.length_encode frame.header, List.drop_left]
  have hpay : readPayload headerLength frame.payload.length (frame.payload.bytes ++ rest) =
      .ok frame.payload := by
    have hle : frame.payload.length ≤ Payload.limit := frame.payload.length_le
    have hlt : ¬ (frame.payload.bytes ++ rest).length < frame.payload.length := by
      simp [Payload.length]
    have htake : (frame.payload.bytes ++ rest).take frame.payload.length =
        frame.payload.bytes := List.take_left
    unfold readPayload
    rw [dif_pos hle, if_neg hlt]
    simp only [htake]
  have htype : MessageType.ofCode? frame.header.code = some frame.type := by
    simp [header]
  simp only [decode, hparse, bind, Except.bind, htype, length_header, hdrop, hpay]
  simp [header, pure, Except.pure]

end Frame

end Telematics
