/-
# Telematics.Message.Sequence -- numbering messages

Messages that are made on one channel are numbered from one upwards.  Zero is
never given out: behind the greatest 32-bit number comes one again.
-/
namespace Telematics

set_option autoImplicit false

/-- A source of sequence numbers. -/
structure SequenceCounter where
  /-- The number that is given out next. -/
  upcoming : UInt32
  positive : 0 < upcoming
  deriving DecidableEq

namespace SequenceCounter

/-- A counter of which no number has been taken. -/
def new : SequenceCounter := ⟨1, by decide⟩

/-- The number that follows another. -/
def successor (n : UInt32) : UInt32 :=
  if n + 1 = 0 then 1 else n + 1

theorem successor_positive (n : UInt32) : 0 < successor n := by
  unfold successor
  split
  · decide
  · rename_i h
    rw [UInt32.lt_iff_toNat_lt]
    rcases Nat.eq_zero_or_pos (n + 1).toNat with h0 | h0
    · exact absurd (UInt32.toNat_inj.1 h0) h
    · exact h0

def take (counter : SequenceCounter) : UInt32 × SequenceCounter :=
  (counter.upcoming, ⟨successor counter.upcoming, successor_positive _⟩)

def takeMany : Nat → SequenceCounter → List UInt32 × SequenceCounter
  | 0, counter => ([], counter)
  | n + 1, counter =>
    let (first, counter) := counter.take
    let (others, counter) := takeMany n counter
    (first :: others, counter)

end SequenceCounter

end Telematics
