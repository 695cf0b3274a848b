/-
# Telematics.Link.Packet -- the room that bytes take up on their way

Bytes travel in packets of at most `sizeLimit` each.  A packet has a head, which
comes in four sizes, and pages behind it if it is long; what it takes up is more
than the bytes in it, and is given back when the last of them has been read.

A writer may add packets as long as there is room, and the last one may go beyond
(`packetsOf`).

`size_packetsOf_le` says that no more bytes are added than there are, and
`size_packetsOf_pos` that some are where there is room.
-/
import Telematics.Total

namespace Telematics.Link

set_option autoImplicit false

/-- Some bytes that were written together. -/
structure Packet where
  /-- The number of bytes that have not been read. -/
  left : Nat
  /-- What the packet takes up. -/
  weight : Nat
  deriving Repr, DecidableEq

namespace Packet

/-- The greatest number of bytes in the head of a packet. -/
def headLimit : Nat := 3776

/-- The greatest number of bytes in a packet. -/
def sizeLimit : Nat := 36544

/-- The number of bytes in the pages that hold so many. -/
def inPages (n : Nat) : Nat := (n + 4095) / 4096 * 4096

def headWeight (n : Nat) : Nat :=
  if n ≤ 192 then 768 else if n ≤ 704 then 1280 else if n ≤ 1728 then 2304 else 4352

/-- The packet of so many bytes; a long one has as few bytes in its head as whole pages allow. -/
def ofSize (n : Nat) : Packet :=
  let paged := if n ≤ headLimit then 0 else min n (inPages (n - headLimit))
  ⟨n, headWeight (n - paged) + inPages paged⟩

/-- What some packets take up. -/
def load (packets : List Packet) : Nat :=
  total weight packets

/-- The number of bytes in some packets. -/
def size (packets : List Packet) : Nat :=
  total left packets

def loadLimit : Nat := 212992

/-- The packets in which so many bytes are added to a load, as far as there is room. -/
def packetsOf (load n : Nat) : List Packet :=
  if n = 0 || loadLimit ≤ load then []
  else
    let packet := ofSize (min n sizeLimit)
    packet :: packetsOf (load + packet.weight) (n - min n sizeLimit)
termination_by n
decreasing_by
  rename_i h
  have : n ≠ 0 := by simp_all
  have : sizeLimit = 36544 := rfl
  omega

/-- The packets that are left when so many bytes have been read. -/
def drop : Nat → List Packet → List Packet
  | _, [] => []
  | n, packet :: packets =>
    if packet.left ≤ n then drop (n - packet.left) packets
    else { packet with left := packet.left - n } :: packets

/-- No more bytes are added than there are. -/
theorem size_packetsOf_le (load n : Nat) : size (packetsOf load n) ≤ n := by
  fun_induction packetsOf load n with
  | case1 => exact Nat.zero_le _
  | case2 load n h packet ih =>
    have : packet.left = min n sizeLimit := rfl
    simp only [size, total_cons] at ih ⊢
    omega

/-- A byte at least is added where there is room. -/
theorem size_packetsOf_pos {load n : Nat} (room : load < loadLimit) (some : 0 < n) :
    0 < size (packetsOf load n) := by
  rw [packetsOf, if_neg (by simp; omega)]
  have : (ofSize (min n sizeLimit)).left = min n sizeLimit := rfl
  have : sizeLimit = 36544 := rfl
  simp only [size, total_cons]
  omega

end Packet

end Telematics.Link
