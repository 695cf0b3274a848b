/-
# Telematics.Proofs.Wire.Leading -- the frames that some bytes begin with

Any bytes begin with a row of frames, which may be empty, and behind that stand
bytes that are no frame (`leading`).  Whether there is a frame at the front of
some bytes can be seen as soon as all of it has come (`decode_append`), so what
comes later only adds to the row.

`leading` is what `decodeMany` takes as long as that is possible
(`decodeMany_leading`).
-/
import Telematics.Proofs.Wire.Decode
import Telematics.Proofs.Wire.Stream

namespace Telematics.Frame

set_option autoImplicit false

open Wire

variable {bytes : List UInt8} {frame : Frame}

theorem le_length_of_decode (decoded : decode bytes = .ok frame) :
    headerLength + frame.payload.length ≤ bytes.length := by
  obtain ⟨header, rest, split, -, -, enough, length⟩ := exists_header_of_decode decoded
  rw [split, List.length_append, Header.length_encode, length]
  omega

/-- What follows a frame makes no difference to it. -/
theorem decode_append (decoded : decode bytes = .ok frame) (others : List UInt8) :
    decode (bytes ++ others) = .ok frame := by
  obtain ⟨header, rest, rfl, -, allowed, enough, -⟩ := exists_header_of_decode decoded
  have more : header.length.toNat ≤ (rest ++ others).length := by
    rw [List.length_append]
    omega
  rw [List.append_assoc, ← decode_header_take allowed more, List.take_append_of_le_length enough,
    decode_header_take allowed enough, decoded]

/-- A frame is there as soon as all its bytes are. -/
theorem decode_of_append {others : List UInt8} (decoded : decode (bytes ++ others) = .ok frame)
    (enough : headerLength + frame.payload.length ≤ bytes.length) : decode bytes = .ok frame := by
  obtain ⟨header, rest, split, -, allowed, whole, length⟩ := exists_header_of_decode decoded
  rw [length] at enough
  rw [split, ← decode_header_take allowed whole] at decoded
  have first : (bytes.take headerLength).length = header.encode.length :=
    List.length_take_of_le (by omega)
  rw [← List.take_append_drop headerLength bytes, List.append_assoc] at split
  obtain ⟨begins, behind⟩ := List.append_inj split first
  have left : header.length.toNat ≤ (bytes.drop headerLength).length := by
    rw [List.length_drop]
    omega
  rw [← behind, List.take_append_of_le_length left, decode_header_take allowed left, ← begins,
    List.take_append_drop] at decoded
  exact decoded

theorem length_drop_lt_of_decode (decoded : decode bytes = .ok frame) :
    (bytes.drop (headerLength + frame.payload.length)).length < bytes.length := by
  have whole := le_length_of_decode decoded
  have : headerLength = 24 := rfl
  rw [List.length_drop]
  omega

/-- The frames at the front of some bytes, up to the first place where there is none. -/
def leading (bytes : List UInt8) : List Frame :=
  match _ : decode bytes with
  | .error _ => []
  | .ok frame => frame :: leading (bytes.drop (headerLength + frame.payload.length))
termination_by bytes.length
decreasing_by exact length_drop_lt_of_decode ‹_›

theorem leading_of_error {e : FrameError} (refused : decode bytes = .error e) :
    leading bytes = [] := by
  rw [leading]
  split
  · rfl
  · rename_i decoded
    cases refused.symm.trans decoded

theorem leading_of_decode (decoded : decode bytes = .ok frame) :
    leading bytes = frame :: leading (bytes.drop (headerLength + frame.payload.length)) := by
  rw [leading]
  split
  · rename_i refused
    cases decoded.symm.trans refused
  · rename_i same
    cases decoded.symm.trans same
    rfl

/-- A frame that is there leads, whatever follows it. -/
theorem leading_append (decoded : decode bytes = .ok frame) (others : List UInt8) :
    leading (bytes ++ others) =
      frame :: leading (bytes.drop (headerLength + frame.payload.length) ++ others) := by
  rw [leading_of_decode (decode_append decoded others),
    List.drop_append_of_le_length (le_length_of_decode decoded)]

/-- The leading frames are those that can be taken one behind the other, and behind them stands
none. -/
theorem decodeMany_leading (bytes : List UInt8) :
    ∃ rest e, decodeMany (leading bytes).length bytes = .ok (leading bytes, rest) ∧
      decode rest = .error e := by
  fun_induction leading bytes with
  | case1 bytes e refused => exact ⟨bytes, e, rfl, refused⟩
  | case2 bytes frame decoded ih =>
    obtain ⟨rest, e, taken, refused⟩ := ih
    refine ⟨rest, e, ?_, refused⟩
    simp only [List.length_cons, decodeMany, decoded, taken, bind, Except.bind, pure, Except.pure]

end Telematics.Frame
