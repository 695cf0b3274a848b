/-
# Telematics.Proofs.Link.Room -- room for a frame

What has been written completely stands behind what was queued before
(`Sound.write_cases`).  A pipe in which nothing is queued has room for two packets
of any size, so a frame with the longest payload there can be is written into it at
once (`write_new`).
-/
import Telematics.Proofs.Link.Transfer

namespace Telematics.Link

set_option autoImplicit false

namespace Packet

theorem headWeight_le (n : Nat) : headWeight n ≤ 4352 := by
  unfold headWeight
  split
  · omega
  split
  · omega
  split <;> omega

theorem inPages_le {n : Nat} (few : n ≤ sizeLimit) : inPages n ≤ 40960 := by
  have limit : sizeLimit = 36544 := rfl
  unfold inPages
  omega

/-- One packet never takes up all the room. -/
theorem weight_ofSize_lt {n : Nat} (few : n ≤ sizeLimit) : (ofSize n).weight < loadLimit := by
  have head := headWeight_le (n - if n ≤ headLimit then 0 else min n (inPages (n - headLimit)))
  have paged : inPages (if n ≤ headLimit then 0 else min n (inPages (n - headLimit))) ≤ 40960 := by
    apply inPages_le
    split
    · exact Nat.zero_le _
    · exact Nat.le_trans (Nat.min_le_left _ _) few
  have limit : loadLimit = 212992 := rfl
  show headWeight _ + inPages _ < _
  omega

theorem packetsOf_zero (load : Nat) : packetsOf load 0 = [] := by
  rw [packetsOf, if_pos (by simp)]

theorem packetsOf_of_room {load n : Nat} (room : load < loadLimit) (some : 0 < n) :
    packetsOf load n = ofSize (min n sizeLimit) ::
      packetsOf (load + (ofSize (min n sizeLimit)).weight) (n - min n sizeLimit) := by
  rw [packetsOf, if_neg (by simp; omega)]

/-- One packet's worth of bytes finds room where there is any. -/
theorem size_packetsOf_of_room {load n : Nat} (room : load < loadLimit) (few : n ≤ sizeLimit) :
    size (packetsOf load n) = n := by
  rcases Nat.eq_zero_or_pos n with rfl | some
  · rw [packetsOf_zero]
    rfl
  · rw [packetsOf_of_room room some, Nat.min_eq_left few, Nat.sub_self, packetsOf_zero]
    rfl

/-- Two packets' worth of bytes find room where there is nothing. -/
theorem size_packetsOf_empty {n : Nat} (few : n ≤ 2 * sizeLimit) : size (packetsOf 0 n) = n := by
  rcases Nat.lt_or_ge sizeLimit n with many | one
  case inr => exact size_packetsOf_of_room (by decide) one
  have room : 0 + (ofSize sizeLimit).weight < loadLimit := by
    rw [Nat.zero_add]
    exact weight_ofSize_lt (Nat.le_refl _)
  rw [packetsOf_of_room (by decide) (Nat.lt_of_le_of_lt (Nat.zero_le _) many),
    Nat.min_eq_right (Nat.le_of_lt many), size_cons, size_packetsOf_of_room room (by omega)]
  show sizeLimit + (n - sizeLimit) = n
  omega

end Packet

namespace Pipe

variable {p p' : Pipe} {bytes rest : List UInt8}

theorem Sound.eq_new (sound : p.Sound) (empty : p.queue = []) : p = .new := by
  have gone := sound.advance_of_le (Nat.le_of_eq (congrArg List.length empty))
  rwa [List.length_nil, advance_zero] at gone

/-- What is given portion by portion goes behind the queue. -/
theorem giveAll?_spec {total : Nat} {mosts : List Nat} (sound : p.Sound)
    (given : giveAll? total mosts p bytes = some (rest, p')) :
    ∃ portion, bytes = portion ++ rest ∧ p'.queue = p.queue ++ portion ∧ p'.Sound := by
  induction mosts generalizing p bytes with
  | nil =>
    cases given
    exact ⟨[], rfl, (List.append_nil _).symm, sound⟩
  | cons most mosts ih =>
    obtain ⟨⟨left, next⟩, first, others⟩ := Option.bind_eq_some_iff.1 given
    obtain ⟨portion, -, split, queue, stillSound⟩ := give?_spec sound first
    obtain ⟨more, splits, queues, atEnd⟩ := ih stillSound others
    refine ⟨portion ++ more, ?_, ?_, atEnd⟩
    · rw [split, splits, List.append_assoc]
    · rw [queues, queue, List.append_assoc]

/-- What is written stands behind the queue as a whole, unless the time runs out. -/
theorem Sound.write_cases (sound : p.Sound) (timeout : Span) (some : bytes ≠ []) :
    (∃ p', p.write bytes false timeout = (.error (.timeout .write timeout), p')) ∨
      ∃ p', p.write bytes false timeout = (.ok bytes.length, p') ∧
        p'.queue = p.queue ++ bytes ∧ p'.Sound := by
  rcases Pipe.write_cases timeout sound.live some with late | ⟨most, more, p', given, written⟩
  · exact .inl late
  · obtain ⟨portion, split, queue, stillSound⟩ := giveAll?_spec sound given
    rw [List.append_nil] at split
    exact .inr ⟨p', written, by rw [queue, split], stillSound⟩

/-- Where nothing is queued there is room for two packets, so there is nothing to wait for. -/
theorem write_new (timeout : Span) (few : bytes.length ≤ 2 * Packet.sizeLimit) :
    (Pipe.new.write bytes false timeout).1 = .ok bytes.length := by
  by_cases wanted : bytes.length = 0
  · rw [List.eq_nil_of_length_eq_zero wanted]
    rfl
  let t : Transfer (Pipe × List UInt8) := ⟨.write, timeout, bytes.length, writeSome⟩
  have size : Packet.size (Packet.packetsOf (Packet.load Pipe.new.packets) bytes.length) =
      bytes.length := Packet.size_packetsOf_empty few
  obtain ⟨s, moved⟩ : ∃ s, t.attempt (t.expected - 0) (.new, bytes) = (.moved bytes.length, s) := by
    show ∃ s, writeSome bytes.length (.new, bytes) = _
    rw [writeSome, if_neg (by simp [Pipe.new])]
    simp only [size, if_neg wanted]
    exact ⟨_, rfl⟩
  show (t.run (false || Pipe.new.isWritable) (.new, bytes)).1 = _
  rw [Transfer.run, if_neg wanted, if_pos (by decide),
    Transfer.continueFrom_of_moved (Nat.pos_of_ne_zero wanted) (Nat.pos_of_ne_zero wanted) moved,
    Transfer.continueFrom_of_done (Nat.le_of_eq (Nat.zero_add _).symm), Nat.zero_add]

end Pipe

end Telematics.Link
