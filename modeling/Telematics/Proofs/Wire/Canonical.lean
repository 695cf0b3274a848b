/-
# Telematics.Proofs.Wire.Canonical -- writing again what has been read

A frame can arrive in several spellings, which differ in the flags that have no
meaning.  Written again it has the one in which these are zero: the bytes in which it
came with their flags cut down to the lowest (`canonical`), however long it is
(`encode_of_decode`).  So nothing else is lost: frames are the same exactly if their
canonical spellings are (`encode_inj`), and some bytes begin with what is written
again exactly if their other flags were zero already (`encode_prefix_iff`).
-/
import Telematics.Proofs.Wire.Grammar
import Telematics.Proofs.Wire.Stream

namespace Telematics

set_option autoImplicit false

open Wire

namespace Wire

/-- A header and the `length` bytes behind it, with no flag but the lowest. -/
def canonical (bytes : List UInt8) (length : Nat) : List UInt8 :=
  withFlags (bytes.take (headerLength + length)) (field bytes 12 &&& 1)

theorem flagsOf_asksReply (flags : UInt32) : flagsOf (asksReply flags) = flags &&& 1 := by
  rw [← UInt32.toNat_inj, UInt32.toNat_and, UInt32.toNat_one, Nat.and_one_is_mod, asksReply]
  rcases Nat.mod_two_eq_zero_or_one flags.toNat with even | odd
  · rw [even]
    rfl
  · rw [odd]
    rfl

theorem canonical_encode_append (header : Header) (payload rest : List UInt8) :
    canonical (header.encode ++ (payload ++ rest)) payload.length =
      Header.encode { header with flags := header.flags &&& 1 } ++ payload := by
  have placed : field (header.encode ++ (payload ++ rest)) 12 = header.flags :=
    congrArg Header.flags (Header.atPlaces_encode_append header _)
  have front : (header.encode ++ (payload ++ rest)).take (headerLength + payload.length) =
      header.encode ++ payload := by
    rw [← Header.length_encode header, List.take_length_add_append, List.take_left]
  rw [canonical, placed, front, Header.withFlags_encode_append]

/-- No flag but the lowest is set exactly if cutting down to the lowest changes nothing. -/
theorem and_one_eq_iff {flags : UInt32} :
    flags &&& 1 = flags ↔ ∀ bit, 1 ≤ bit → flags.toNat.testBit bit = false := by
  have two : (2 : Nat) ≠ 0 := by decide
  rw [← UInt32.toNat_inj, UInt32.toNat_and, UInt32.toNat_one, Nat.and_one_is_mod,
    Nat.mod_eq_iff_lt two]
  constructor
  · intro small bit high
    exact Nat.testBit_lt_two_pow (Nat.lt_of_lt_of_le small (Nat.pow_le_pow_right Nat.two_pos high))
  · intro unset
    exact Nat.lt_pow_two_of_testBit flags.toNat unset

end Wire

namespace Frame

variable {bytes : List UInt8} {frame : Frame}

/-- What decodes to a frame begins with its header, but for the flags, and its payload. -/
theorem exists_flags_of_decode (decoded : decode bytes = .ok frame) :
    ∃ rest, bytes = Header.encode { frame.header with flags := field bytes 12 } ++
        (frame.payload.bytes ++ rest) ∧
      field bytes 12 &&& 1 = frame.header.flags := by
  have length := length_payload_of_decode decoded
  cases decode_eq_iff.1 decoded with
  | whole _ marked enough _ typed numbered asked carried =>
    obtain ⟨header, split⟩ := Header.exists_encode_append (by omega) marked
    have placed : { frame.header with flags := field bytes 12 } = header := by
      rw [← Header.atPlaces_encode_append header (bytes.drop headerLength), ← split]
      simp only [Frame.header, Header.atPlaces, typed, numbered, length, UInt32.ofNat_toNat]
    refine ⟨(bytes.drop headerLength).drop (field bytes 20).toNat, ?_, ?_⟩
    · rw [placed, carried, List.take_append_drop, ← split]
    · rw [← flagsOf_asksReply, asksReply_eq, ← asked]
      rfl

/-- A frame is written again as it came, with no flag but the lowest. -/
theorem encode_of_decode (decoded : decode bytes = .ok frame) :
    frame.encode = canonical bytes frame.payload.length := by
  obtain ⟨rest, split, lowest⟩ := exists_flags_of_decode decoded
  rw [split, Payload.length, canonical_encode_append, lowest]
  rfl

theorem encode_inj {other : Frame} : frame.encode = other.encode ↔ frame = other := by
  refine ⟨fun same => ?_, fun same => same ▸ rfl⟩
  have followed : frame.encode ++ [] = other.encode ++ [] := by rw [same]
  exact eq_of_encode_append_eq followed

/-- Some bytes begin with what is written again exactly if they had no flag but the lowest. -/
theorem encode_prefix_iff (decoded : decode bytes = .ok frame) :
    frame.encode <+: bytes ↔ field bytes 12 &&& 1 = field bytes 12 := by
  obtain ⟨rest, split, lowest⟩ := exists_flags_of_decode decoded
  constructor
  · rintro ⟨behind, same⟩
    have written : field bytes 12 = frame.header.flags := by
      rw [← same, encode, List.append_assoc]
      exact congrArg Header.flags (Header.atPlaces_encode_append frame.header _)
    rw [lowest, written]
  · intro plain
    refine ⟨rest, ?_⟩
    rw [split, ← plain, lowest, encode, List.append_assoc]

end Frame

namespace Message

variable {δ : Type}

/-- **Writing again is canonical.**  A message that some bytes decode to is written as the frame
that they begin with, with no flag but the lowest.  So they begin with what is written exactly if no
other flag was set; what is written decodes to the message again; and messages that bytes decode to
are the same exactly if the bytes are, up to the other flags and what follows. -/
theorem reencodes_canonically (bytes : List UInt8) (message : Message δ)
    (decoded : Frame.decode bytes = .ok message.frame) :
    message.frame.encode = canonical bytes message.frame.payload.length ∧
    (message.frame.encode <+: bytes ↔
      ∀ bit, 1 ≤ bit → (field bytes 12).toNat.testBit bit = false) ∧
    Frame.decode message.frame.encode = .ok message.frame ∧
    ∀ (others : List UInt8) (other : Message δ), Frame.decode others = .ok other.frame →
      (message.same other = true ↔
        canonical bytes message.frame.payload.length =
          canonical others other.frame.payload.length) := by
  refine ⟨Frame.encode_of_decode decoded, ?_, ?_, ?_⟩
  · rw [Frame.encode_prefix_iff decoded, and_one_eq_iff]
  · have again := Frame.decode_encode message.frame []
    rwa [List.append_nil] at again
  · intro others other alike
    rw [same_iff, ← Frame.encode_of_decode decoded, ← Frame.encode_of_decode alike,
      Frame.encode_inj]

/-- Bytes with a flag that has no meaning, and a byte behind the frame: what is written again is
neither of the two, and it is what the bytes without that flag are written as. -/
theorem reencodes_odd_flags :
    let bytes := Header.encode ⟨7, 0x80000001, 5, 2⟩ ++ [0xAA, 0xBB, 0x54]
    let plain := Header.encode ⟨7, 1, 5, 2⟩ ++ [0xAA, 0xBB]
    let message : Message Nat := ⟨⟨⟨7, by decide⟩, 5, true, ⟨[0xAA, 0xBB], by decide⟩⟩, none⟩
    Frame.decode bytes = .ok message.frame ∧ message.frame.encode = plain ∧
      ¬ message.frame.encode <+: bytes ∧ canonical bytes 2 = canonical plain 2 := by
  intro bytes plain message
  have decoded : Frame.decode bytes = .ok message.frame := rfl
  obtain ⟨-, begins, -, alike⟩ := reencodes_canonically bytes message decoded
  have same : Frame.decode plain = .ok message.frame := rfl
  refine ⟨decoded, rfl, ?_, (alike plain message same).1 (same_iff.2 rfl)⟩
  intro leading
  have unset := begins.1 leading 31 (by decide)
  revert unset
  decide

end Message

end Telematics
