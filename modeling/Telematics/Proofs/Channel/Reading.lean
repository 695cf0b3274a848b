/-
# Telematics.Proofs.Channel.Reading -- reading a frame, portion by portion

The bytes of a frame come in portions.  What has come says how far the reading
is (`readingOf`): so many bytes are wanted next, first those of the header and
then those of the announced payload, or the bytes are a frame, or they are
refused.

Whoever reads no more than is wanted takes no byte of what follows a frame:
the first bytes of a frame want some of the others (`readingOf_of_lt`), and all
of them are the frame (`readingOf_encode`).
-/
import Telematics.Proofs.Channel.Exchange
import Telematics.Proofs.Link.Portion
import Telematics.Proofs.Wire.Decode

namespace Telematics.Channel

set_option autoImplicit false

open Link Wire

/-- How far the reading of a frame is. -/
inductive Reading where
  /-- So many bytes are wanted next. -/
  | wanting (count : Nat)
  /-- The bytes are a frame. -/
  | whole (frame : Frame)
  | refused (error : FrameError)

/-- How far the reading of a frame is when some bytes have come. -/
def readingOf (held : List UInt8) : Reading :=
  if held.length < headerLength then .wanting (headerLength - held.length)
  else
    match peekLength held with
    | .error e => .refused e
    | .ok length =>
      if Payload.limit < length then .refused (.lengthTooLarge length Payload.limit)
      else if held.length < headerLength + length then
        .wanting (headerLength + length - held.length)
      else
        match Frame.decode held with
        | .error e => .refused e
        | .ok frame => .whole frame

/-- One attempt to read on, at most so many bytes, when some have come. -/
def readOn? (most : Nat) (source : Handle) (f : Fabric) (held : List UInt8) :
    Option (List UInt8 × Fabric) :=
  match readingOf held with
  | .wanting count =>
    ((f.incoming source).take? (min most count)).map fun (bytes, pipe) =>
      (held ++ bytes, f.withIncoming source pipe)
  | _ => none

theorem readOn?_eq_some {most : Nat} {source : Handle} {f f' : Fabric} {held held' : List UInt8}
    (read : readOn? most source f held = some (held', f')) :
    ∃ count bytes pipe, readingOf held = .wanting count ∧
      (f.incoming source).take? (min most count) = some (bytes, pipe) ∧
      held' = held ++ bytes ∧ f' = f.withIncoming source pipe := by
  unfold readOn? at read
  split at read
  · rename_i count wanting
    obtain ⟨⟨bytes, pipe⟩, taken, same⟩ := Option.map_eq_some_iff.1 read
    cases same
    exact ⟨count, bytes, pipe, wanting, taken, rfl, rfl⟩
  · cases read

theorem exists_header_append {frame : Frame} {held rest others : List UInt8}
    (split : held ++ rest = frame.encode ++ others) (enough : headerLength ≤ held.length) :
    ∃ behind, held = frame.header.encode ++ behind := by
  rw [Frame.encode, List.append_assoc] at split
  obtain ⟨behind, whole, -⟩ | ⟨before, whole, -⟩ := List.append_eq_append_iff.1 split
  · have length := congrArg List.length whole
    rw [List.length_append, Header.length_encode] at length
    have none : behind = [] := List.eq_nil_of_length_eq_zero (by omega)
    exact ⟨[], by rw [whole, none, List.append_nil, List.append_nil]⟩
  · exact ⟨before, whole⟩

/-- Some of the bytes of a frame want some of the others next, and nothing of what follows. -/
theorem readingOf_of_lt {frame : Frame} {held rest others : List UInt8}
    (split : held ++ rest = frame.encode ++ others) (short : held.length < frame.encode.length) :
    ∃ count, readingOf held = .wanting count ∧ 0 < count ∧
      held.length + count ≤ frame.encode.length := by
  rw [Frame.length_encode] at short ⊢
  rcases Nat.lt_or_ge held.length headerLength with few | enough
  · refine ⟨headerLength - held.length, ?_, by omega, by omega⟩
    rw [readingOf, if_pos few]
  · obtain ⟨behind, begins⟩ := exists_header_append split enough
    have peeked : peekLength held = .ok frame.payload.length := by
      rw [begins, peekLength_encode_append, Frame.length_header]
    have allowed : ¬ Payload.limit < frame.payload.length := Nat.not_lt.2 frame.payload.length_le
    refine ⟨headerLength + frame.payload.length - held.length, ?_, by omega, by omega⟩
    simp only [readingOf, if_neg (Nat.not_lt.2 enough), peeked, if_neg allowed, if_pos short]

/-- All the bytes of a frame are the frame. -/
theorem readingOf_encode (frame : Frame) : readingOf frame.encode = .whole frame := by
  have length := frame.length_encode
  have peeked : peekLength frame.encode = .ok frame.payload.length := by
    rw [Frame.encode, peekLength_encode_append, Frame.length_header]
  have allowed : ¬ Payload.limit < frame.payload.length := Nat.not_lt.2 frame.payload.length_le
  have decoded : Frame.decode frame.encode = .ok frame := by
    have := Frame.decode_encode frame []
    rwa [List.append_nil] at this
  have header : ¬ frame.encode.length < headerLength := by omega
  have payload : ¬ frame.encode.length < headerLength + frame.payload.length := by omega
  simp only [readingOf, if_neg header, peeked, if_neg allowed, if_neg payload, decoded]

/-- Some more bytes of a frame, no more than are wanted, leave the reading within the frame or are
the last of it. -/
theorem readingOf_append {frame : Frame} {held bytes rest others : List UInt8} {count : Nat}
    (split : held ++ (bytes ++ rest) = frame.encode ++ others)
    (short : held.length < frame.encode.length) (wanting : readingOf held = .wanting count)
    (few : bytes.length ≤ count) :
    ((held ++ bytes).length < frame.encode.length ∧
        ∃ count, readingOf (held ++ bytes) = .wanting count) ∨
      (held ++ bytes = frame.encode ∧ rest = others ∧
        readingOf (held ++ bytes) = .whole frame) := by
  obtain ⟨wanted, same, -, bound⟩ := readingOf_of_lt split short
  cases wanting.symm.trans same
  rw [← List.append_assoc] at split
  have length : (held ++ bytes).length = held.length + bytes.length := List.length_append
  rcases Nat.lt_or_ge (held ++ bytes).length frame.encode.length with less | all
  · obtain ⟨next, wants, -⟩ := readingOf_of_lt split less
    exact .inl ⟨less, next, wants⟩
  · obtain ⟨whole, behind⟩ := List.append_inj split (by omega)
    exact .inr ⟨whole, behind, by rw [whole, readingOf_encode]⟩

end Telematics.Channel
