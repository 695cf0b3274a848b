/-
# Telematics.Proofs.Wire.Stream -- frames one behind the other

A connection carries frames one behind the other, with nothing between them.
`decodeMany` takes so many of them from the front of some bytes, each time going
on behind the header and the payload that were announced.

* Frames that were written are taken back, and the reading stands exactly where
  they end, whatever bytes follow (`decodeMany_encodeAll`).
* No frame begins another one: bytes that begin with one frame and with another
  begin with the same one twice (`eq_of_encode_append_eq`).
-/
import Telematics.Wire.Frame

namespace Telematics

set_option autoImplicit false

open Wire

namespace Frame

/-- The bytes of some frames, one behind the other. -/
def encodeAll (frames : List Frame) : List UInt8 :=
  (frames.map encode).flatten

/-- Takes `n` frames from the front of some bytes, and says what is left behind them. -/
def decodeMany : Nat → List UInt8 → Except FrameError (List Frame × List UInt8)
  | 0, bytes => .ok ([], bytes)
  | n + 1, bytes => do
    let frame ← decode bytes
    let (others, rest) ← decodeMany n (bytes.drop (headerLength + frame.payload.length))
    return (frame :: others, rest)

@[simp] theorem encodeAll_nil : encodeAll [] = [] := rfl

@[simp] theorem encodeAll_cons (frame : Frame) (frames : List Frame) :
    encodeAll (frame :: frames) = frame.encode ++ encodeAll frames := rfl

@[simp] theorem encodeAll_append (frames others : List Frame) :
    encodeAll (frames ++ others) = encodeAll frames ++ encodeAll others := by
  simp [encodeAll]

theorem drop_encode_append (frame : Frame) (rest : List UInt8) :
    (frame.encode ++ rest).drop (headerLength + frame.payload.length) = rest := by
  rw [← length_encode, List.drop_left]

theorem decodeMany_succ_encode (frame : Frame) (n : Nat) (rest : List UInt8) :
    decodeMany (n + 1) (frame.encode ++ rest) =
      (decodeMany n rest).map fun result => (frame :: result.1, result.2) := by
  have first := decode_encode frame rest
  have behind := drop_encode_append frame rest
  simp only [decodeMany, first, bind, Except.bind, behind]
  cases decodeMany n rest with
  | error e => rfl
  | ok result => rfl

/-- Frames that were written are taken back, whatever follows them. -/
theorem decodeMany_encodeAll (frames : List Frame) (rest : List UInt8) :
    decodeMany frames.length (encodeAll frames ++ rest) = .ok (frames, rest) := by
  induction frames with
  | nil => rfl
  | cons frame frames ih =>
    rw [encodeAll_cons, List.append_assoc, List.length_cons, decodeMany_succ_encode, ih]
    rfl

/-- Bytes begin with one frame at most. -/
theorem eq_of_encode_append_eq {frame other : Frame} {rest behind : List UInt8}
    (same : frame.encode ++ rest = other.encode ++ behind) : frame = other := by
  have taken := decode_encode frame rest
  rw [same, decode_encode] at taken
  exact (Except.ok.inj taken).symm

end Frame

namespace Message

variable {δ : Type}

theorem same_iff {a b : Message δ} : a.same b = true ↔ a.frame = b.frame := by
  simp [same]

/-- Messages that are sent one behind the other arrive as they are, one for one, and the reading
stands exactly at what follows them.  In particular no message begins with another one. -/
theorem decodeMany_stream (messages : List (Message δ)) (rest : List UInt8) :
    (∃ frames,
      Frame.decodeMany messages.length (Frame.encodeAll (messages.map Message.frame) ++ rest) =
        .ok (frames, rest) ∧
      frames.length = messages.length ∧
      ∀ (n : Nat) (message : Message δ) (frame : Frame), messages[n]? = some message →
        frames[n]? = some frame → message.same ⟨frame, none⟩ = true) ∧
    ∀ a b : Message δ, a.frame.encode <+: b.frame.encode ++ rest → a.same b = true := by
  refine ⟨⟨messages.map Message.frame, ?_, List.length_map _, ?_⟩, ?_⟩
  · have taken := Frame.decodeMany_encodeAll (messages.map Message.frame) rest
    rwa [List.length_map] at taken
  · intro n message frame sent arrived
    rw [List.getElem?_map, sent] at arrived
    cases arrived
    exact same_iff.2 rfl
  · intro a b ⟨behind, split⟩
    exact same_iff.2 (Frame.eq_of_encode_append_eq split)

end Message

end Telematics
