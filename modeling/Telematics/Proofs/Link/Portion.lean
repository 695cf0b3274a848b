/-
# Telematics.Proofs.Link.Portion -- single attempts to move bytes

Bytes go through a pipe in portions: one attempt to read (`take?`) or to write
(`give?`) moves some of them, how many being up to the surroundings.  Between two
attempts others may make theirs.

A pipe is `Sound` while neither side has gone and its packets hold what is
queued, which every portion keeps.  A portion takes from the front of the queue
or adds behind it (`take?_spec`, `give?_spec`); reading is possible while there
is something to read (`exists_take?`), and writing when nothing is
(`exists_give?`).
-/
import Telematics.Proofs.Link.Pipe

namespace Telematics.Link

set_option autoImplicit false

namespace Packet

@[simp] theorem size_cons (packet : Packet) (packets : List Packet) :
    size (packet :: packets) = packet.left + size packets := rfl

@[simp] theorem size_append (packets others : List Packet) :
    size (packets ++ others) = size packets + size others := by
  simp [size]

theorem size_drop (n : Nat) (packets : List Packet) : size (drop n packets) = size packets - n := by
  induction packets generalizing n with
  | nil => rw [drop]; simp [size]
  | cons packet packets ih =>
    rw [drop]
    split
    · rename_i all
      rw [ih, size_cons]
      omega
    · rename_i some
      rw [size_cons, size_cons]
      show packet.left - n + size packets = packet.left + size packets - n
      omega

theorem drop_eq_nil {n : Nat} {packets : List Packet} (all : size packets ≤ n) :
    drop n packets = [] := by
  induction packets generalizing n with
  | nil => rw [drop]
  | cons packet packets ih =>
    rw [size_cons] at all
    rw [drop, if_pos (by omega)]
    exact ih (by omega)

end Packet

namespace Pipe

/-- A pipe into which more may be written, with its bytes in packets. -/
structure Sound (p : Pipe) : Prop where
  live : p.ending = .live
  size : Packet.size p.packets = p.queue.length
  /-- No packets are left over. -/
  empty : p.queue = [] → p.packets = []

theorem sound_new : Sound .new := ⟨rfl, rfl, fun _ => rfl⟩

/-- One attempt to read at most `n` bytes, if there are any. -/
def take? (n : Nat) (p : Pipe) : Option (List UInt8 × Pipe) :=
  match readSome n (p, []) with
  | (.moved (_ + 1), (p, bytes)) => some (bytes, p)
  | _ => none

/-- One attempt to write at most `n` of some bytes, if there is room for them, and what is left of
them.  Whoever begins to write waits for more room than whoever goes on. -/
def give? (n : Nat) (begun : Bool) (p : Pipe) (bytes : List UInt8) :
    Option (List UInt8 × Pipe) :=
  if begun || p.isWritable then
    match writeSome (min n bytes.length) (p, bytes) with
    | (.moved (_ + 1), (p, rest)) => some (rest, p)
    | _ => none
  else none

theorem take?_of_queue {n : Nat} {p : Pipe} (queued : p.queue ≠ []) (wanted : 0 < n) :
    take? n p = some (p.queue.take n, p.advance n) := by
  have positive := List.length_pos_iff.2 queued
  obtain ⟨count, moved⟩ : ∃ count, min n p.queue.length = count + 1 :=
    ⟨min n p.queue.length - 1, by omega⟩
  rw [take?, readSome_of_queue n [] queued wanted, moved]
  rfl

theorem take?_of_empty {n : Nat} {p : Pipe} (live : p.ending = .live) (empty : p.queue = []) :
    take? n p = none := by
  simp [take?, readSome, empty, live]

theorem Sound.advance {p : Pipe} (sound : p.Sound) (n : Nat) : (p.advance n).Sound := by
  rcases Nat.eq_zero_or_pos n with rfl | positive
  · exact sound
  have packets : (p.advance n).packets = Packet.drop n p.packets := by
    rw [Pipe.advance, if_neg (by omega)]
  refine ⟨(ending_advance p n).trans sound.live, ?_, ?_⟩
  · rw [packets, Packet.size_drop, sound.size, queue_advance, List.length_drop]
  · intro empty
    rw [queue_advance, List.drop_eq_nil_iff, ← sound.size] at empty
    rw [packets, Packet.drop_eq_nil empty]

/-- A portion that is read was at the front of the queue. -/
theorem take?_spec {n : Nat} {p p' : Pipe} {bytes : List UInt8} (sound : p.Sound)
    (taken : take? n p = some (bytes, p')) :
    bytes ≠ [] ∧ bytes.length ≤ n ∧ p.queue = bytes ++ p'.queue ∧ p'.Sound := by
  by_cases queued : p.queue = []
  · rw [take?_of_empty sound.live queued] at taken
    cases taken
  rcases Nat.eq_zero_or_pos n with rfl | wanted
  · have full : p.queue.isEmpty = false := by simpa using queued
    simp [take?, readSome, full] at taken
  rw [take?_of_queue queued wanted] at taken
  cases taken
  refine ⟨?_, ?_, ?_, sound.advance n⟩
  · simp [queued, Nat.ne_of_gt wanted]
  · rw [List.length_take]
    omega
  · rw [queue_advance, List.take_append_drop]

/-- Reading is possible while there is something to read. -/
theorem exists_take? {n : Nat} {p : Pipe} (queued : p.queue ≠ []) (wanted : 0 < n) :
    ∃ bytes p', take? n p = some (bytes, p') :=
  ⟨_, _, take?_of_queue queued wanted⟩

/-- The packets that an attempt to write adds. -/
def added (n : Nat) (p : Pipe) (bytes : List UInt8) : List Packet :=
  Packet.packetsOf (Packet.load p.packets) (min n bytes.length)

theorem size_added_le (n : Nat) (p : Pipe) (bytes : List UInt8) :
    Packet.size (added n p bytes) ≤ bytes.length :=
  Nat.le_trans (Packet.size_packetsOf_le _ _) (Nat.min_le_right _ _)

theorem give?_eq {n : Nat} {begun : Bool} {p : Pipe} {bytes : List UInt8} (live : p.ending = .live)
    (ready : (begun || p.isWritable) = true) :
    give? n begun p bytes =
      if Packet.size (added n p bytes) = 0 then none
      else some (bytes.drop (Packet.size (added n p bytes)),
        ⟨p.queue ++ bytes.take (Packet.size (added n p bytes)), p.packets ++ added n p bytes,
          p.ending⟩) := by
  have same : writeSome (min n bytes.length) (p, bytes) =
      if Packet.size (added n p bytes) = 0 then (.blocked, (p, bytes))
      else (.moved (Packet.size (added n p bytes)),
        (⟨p.queue ++ bytes.take (Packet.size (added n p bytes)), p.packets ++ added n p bytes,
          p.ending⟩, bytes.drop (Packet.size (added n p bytes)))) := by
    rw [writeSome, if_neg (by simp [live])]
    rfl
  rw [give?, if_pos ready, same]
  cases Packet.size (added n p bytes) <;> rfl

/-- A portion that is written was the first of what was to be written, and goes behind the
queue. -/
theorem give?_spec {n : Nat} {begun : Bool} {p p' : Pipe} {bytes rest : List UInt8}
    (sound : p.Sound) (given : give? n begun p bytes = some (rest, p')) :
    ∃ portion, portion ≠ [] ∧ bytes = portion ++ rest ∧ p'.queue = p.queue ++ portion ∧
      p'.Sound := by
  by_cases ready : (begun || p.isWritable) = true
  case neg =>
    rw [give?, if_neg ready] at given
    cases given
  have bound := size_added_le n p bytes
  rw [give?_eq sound.live ready] at given
  split at given
  · cases given
  rename_i positive
  cases given
  have length : (bytes.take (Packet.size (added n p bytes))).length =
      Packet.size (added n p bytes) := List.length_take_of_le bound
  have full : bytes.take (Packet.size (added n p bytes)) ≠ [] :=
    List.ne_nil_of_length_pos (by omega)
  refine ⟨_, full, (List.take_append_drop _ _).symm, rfl, sound.live, ?_, ?_⟩
  · rw [Packet.size_append, sound.size, List.length_append, length]
  · intro empty
    exact absurd (List.append_eq_nil_iff.1 empty).2 full

/-- Writing is possible when everything has been read. -/
theorem exists_give? {n : Nat} {p : Pipe} {bytes : List UInt8} (begun : Bool) (sound : p.Sound)
    (empty : p.queue = []) (some : bytes ≠ []) (wanted : 0 < n) :
    ∃ rest p', give? n begun p bytes = .some (rest, p') := by
  have none : p.packets = [] := sound.empty empty
  have writable : p.isWritable = true := by
    rw [isWritable, none]
    decide
  have room : Packet.load p.packets < Packet.loadLimit := by
    rw [none]
    decide
  have length := List.length_pos_iff.2 some
  have positive : 0 < Packet.size (added n p bytes) :=
    Packet.size_packetsOf_pos room (by omega)
  rw [give?_eq sound.live (by rw [writable, Bool.or_true]), if_neg (by omega)]
  exact ⟨_, _, rfl⟩

end Pipe

/-! ## The sides of a connection -/

namespace Fabric

variable {f : Fabric} {number : Nat} {peer : String} {link : Connection}

section

variable (found : f[number]? = some link)

include found

theorem outgoing_near : f.outgoing ⟨number, .near, peer⟩ = link.fromNear := by
  simp [outgoing, linkOf, found, Connection.outgoing]

theorem incoming_near : f.incoming ⟨number, .near, peer⟩ = link.fromFar := by
  simp [incoming, linkOf, found, Connection.incoming, Connection.outgoing, Side.other]

theorem outgoing_far : f.outgoing ⟨number, .far, peer⟩ = link.fromFar := by
  simp [outgoing, linkOf, found, Connection.outgoing]

theorem incoming_far : f.incoming ⟨number, .far, peer⟩ = link.fromNear := by
  simp [incoming, linkOf, found, Connection.incoming, Connection.outgoing, Side.other]

theorem withOutgoing_near (p : Pipe) :
    f.withOutgoing ⟨number, .near, peer⟩ p = f.set number ⟨p, link.fromFar⟩ := by
  simp [withOutgoing, update, linkOf, found, Connection.withOutgoing]

theorem withIncoming_near (p : Pipe) :
    f.withIncoming ⟨number, .near, peer⟩ p = f.set number ⟨link.fromNear, p⟩ := by
  simp [withIncoming, update, linkOf, found, Connection.withIncoming, Connection.withOutgoing,
    Side.other]

theorem withOutgoing_far (p : Pipe) :
    f.withOutgoing ⟨number, .far, peer⟩ p = f.set number ⟨link.fromNear, p⟩ := by
  simp [withOutgoing, update, linkOf, found, Connection.withOutgoing]

theorem withIncoming_far (p : Pipe) :
    f.withIncoming ⟨number, .far, peer⟩ p = f.set number ⟨p, link.fromFar⟩ := by
  simp [withIncoming, update, linkOf, found, Connection.withIncoming, Connection.withOutgoing,
    Side.other]

theorem isConnected_of_live (side : Side) (live : link.fromNear.ending = .live) :
    f.isConnected ⟨number, side, peer⟩ = true := by
  simp [isConnected, linkOf, found, Connection.isHungUp, live]

end

end Fabric

end Telematics.Link
