/-
# Telematics.Proofs.Channel.Carried -- frames on their way

Some of the bytes of a row of frames are held by their reader, some are queued,
and some are still to be written.  As long as nothing else is written and nobody
else reads, all of them together are the frames that have not been read, and the
reader is within the first of these (`Carries`).

A portion that is written changes none of that (`Carries.give`).  A portion that
is read leaves the reader within the first frame or makes it read that frame, and
then it holds nothing of the next (`Carries.take`).  Whoever drops what it holds is
no longer at the beginning of a frame, unless it holds nothing.
-/
import Telematics.Proofs.Conversation.Standing

namespace Telematics.Channel

set_option autoImplicit false

open Link

/-- What is held, what is queued and what is left to be written are some frames, of the first of
which not everything is held. -/
structure Carries (held queued left : List UInt8) (frames : List Frame) : Prop where
  bytes : held ++ (queued ++ left) = Frame.encodeAll frames
  part : Frame.Partial held frames

namespace Carries

variable {held queued left bytes rest portion : List UInt8} {frames : List Frame}

theorem nil : Carries [] [] [] [] := ⟨rfl, rfl⟩

theorem fresh (frames : List Frame) : Carries [] [] (Frame.encodeAll frames) frames :=
  ⟨rfl, Frame.partial_nil frames⟩

/-- Another frame is begun to be written when nothing is left of those before. -/
theorem begin (carries : Carries held queued [] frames) (frame : Frame) :
    Carries held queued frame.encode (frames ++ [frame]) where
  bytes := by
    have before := carries.bytes
    rw [List.append_nil] at before
    rw [Frame.encodeAll_append, ← before]
    simp
  part := by
    have within := carries.part
    cases frames with
    | nil =>
      have empty : held = [] := within
      rw [empty]
      exact Frame.partial_nil _
    | cons first others => exact within

theorem give (carries : Carries held queued (portion ++ rest) frames) :
    Carries held (queued ++ portion) rest frames where
  bytes := by
    rw [List.append_assoc]
    exact carries.bytes
  part := carries.part

/-- A portion of what is wanted leaves the reader within the first frame, or is the last of it. -/
theorem take {count : Nat} (carries : Carries held (bytes ++ rest) left frames) (some : bytes ≠ [])
    (wanting : readingOf held = .wanting count) (few : bytes.length ≤ count) :
    (∃ count, readingOf (held ++ bytes) = .wanting count ∧
        Carries (held ++ bytes) rest left frames) ∨
      ∃ frame others, frames = frame :: others ∧ readingOf (held ++ bytes) = .whole frame ∧
        Carries [] rest left others := by
  have split := carries.bytes
  have part := carries.part
  cases frames with
  | nil =>
    rw [Frame.encodeAll_nil] at split
    simp [some] at split
  | cons frame others =>
    rw [Frame.encodeAll_cons, List.append_assoc bytes rest] at split
    rcases readingOf_append split part wanting few with
      ⟨less, next, wants⟩ | ⟨-, behind, isWhole⟩
    · left
      refine ⟨next, wants, ?_, less⟩
      rw [Frame.encodeAll_cons, ← split, List.append_assoc]
    · exact .inr ⟨frame, others, rfl, isWhole, behind, Frame.partial_nil others⟩

/-- What is held within a frame are its first bytes. -/
theorem prefix_of_held (carries : Carries held queued left frames) (some : held ≠ []) :
    ∃ frame others, frames = frame :: others ∧ held <+: frame.encode ∧ held ≠ frame.encode := by
  have split := carries.bytes
  have part := carries.part
  cases frames with
  | nil => exact absurd part some
  | cons frame others =>
    rw [Frame.encodeAll_cons] at split
    have less : held.length < frame.encode.length := part
    refine ⟨frame, others, rfl, ?_, ?_⟩
    · exact List.prefix_of_prefix_length_le ⟨_, split⟩ (List.prefix_append _ _) (Nat.le_of_lt less)
    · rintro rfl
      exact Nat.lt_irrefl _ less

end Carries

end Telematics.Channel
