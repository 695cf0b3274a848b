/-
# Telematics.Proofs.Wire.Decode -- what the first bytes of a frame say

Bytes that begin with the marker and are long enough begin with a header
(`exists_encode_append`), so what a decoder does with them is said by what it does
with a header and the bytes behind it (`decode_header_append`).  Everything else
is refused before a header is looked at (`parse_of_take_ne_marker`).

A decoder looks at no more payload than the header announces
(`decode_header_take`).
-/
import Telematics.Wire.Frame

namespace Telematics

set_option autoImplicit false

namespace Wire

theorem exists_word_append {bytes : List UInt8} (enough : 4 ≤ bytes.length) :
    ∃ w rest, bytes = word w ++ rest := by
  match bytes, enough with
  | a :: b :: c :: d :: rest, _ => exact ⟨wordOf a b c d, rest, by rw [word_wordOf]; rfl⟩

theorem length_of_readWord? {bytes rest : List UInt8} {w : UInt32}
    (read : readWord? bytes = some (w, rest)) : bytes.length = rest.length + 4 := by
  match bytes, read with
  | a :: b :: c :: d :: _, read =>
    rw [readWord?, Option.some.injEq, Prod.mk.injEq] at read
    rw [← read.2]
    rfl

namespace Header

theorem length_of_parse {bytes : List UInt8} {header : Header} (parsed : parse bytes = .ok header) :
    headerLength ≤ bytes.length ∧ bytes.take marker.length = marker := by
  unfold parse at parsed
  split at parsed
  · cases parsed
  rename_i enough
  split at parsed
  · cases parsed
  rename_i marked
  have found : ∃ header, readFields? (bytes.drop marker.length) = some header := by
    cases fields : readFields? (bytes.drop marker.length) with
    | none => rw [fields] at parsed; cases parsed
    | some header => exact ⟨header, rfl⟩
  obtain ⟨header, fields⟩ := found
  simp only [readFields?, Option.bind_eq_bind, Option.bind_eq_some_iff, Prod.exists] at fields
  obtain ⟨code, afterCode, hcode, flags, afterFlags, hflags, sequence, afterSequence, hsequence,
    announced, rest, hannounced, -⟩ := fields
  have code := length_of_readWord? hcode
  have flags := length_of_readWord? hflags
  have sequence := length_of_readWord? hsequence
  have announced := length_of_readWord? hannounced
  rw [List.length_drop] at code
  have eight : marker.length = 8 := rfl
  refine ⟨?_, Decidable.not_not.1 marked⟩
  rw [headerLength]
  omega

/-- Bytes that begin with the marker and are long enough begin with a header. -/
theorem exists_encode_append {bytes : List UInt8} (enough : headerLength ≤ bytes.length)
    (marked : bytes.take marker.length = marker) :
    ∃ header : Header, bytes = header.encode ++ bytes.drop headerLength := by
  have split : bytes = marker ++ bytes.drop marker.length := by
    have whole := List.take_append_drop marker.length bytes
    rw [marked] at whole
    exact whole.symm
  have length : 16 ≤ (bytes.drop marker.length).length := by
    rw [List.length_drop]
    have : marker.length = 8 := rfl
    have : headerLength = 24 := rfl
    omega
  obtain ⟨code, afterCode, hcode⟩ := exists_word_append (Nat.le_trans (by decide) length)
  rw [hcode, List.length_append, length_word] at length
  obtain ⟨flags, afterFlags, hflags⟩ :=
    exists_word_append (by omega : 4 ≤ afterCode.length)
  rw [hflags, List.length_append, length_word] at length
  obtain ⟨sequence, afterSequence, hsequence⟩ :=
    exists_word_append (by omega : 4 ≤ afterFlags.length)
  rw [hsequence, List.length_append, length_word] at length
  obtain ⟨announced, rest, hannounced⟩ :=
    exists_word_append (by omega : 4 ≤ afterSequence.length)
  have whole : bytes = (Header.mk code.toInt32 flags sequence announced).encode ++ rest := by
    rw [split, hcode, hflags, hsequence, hannounced]
    simp [encode, List.append_assoc]
  refine ⟨⟨code.toInt32, flags, sequence, announced⟩, ?_⟩
  rw [whole, ← length_encode ⟨code.toInt32, flags, sequence, announced⟩, List.drop_left]

/-- Bytes that do not begin with the marker are refused as such. -/
theorem parse_of_take_ne_marker {bytes : List UInt8} (enough : marker.length ≤ bytes.length)
    (other : bytes.take marker.length ≠ marker) : parse bytes = .error .badMarker := by
  rw [parse, if_neg (by omega), if_pos other]

end Header

theorem peekLength_encode_append (header : Header) (rest : List UInt8) :
    peekLength (header.encode ++ rest) = .ok header.length.toNat := by
  simp only [peekLength, Header.parse_encode, bind, Except.bind, pure, Except.pure]

theorem peekLength_encode (header : Header) :
    peekLength header.encode = .ok header.length.toNat := by
  have found := peekLength_encode_append header []
  rwa [List.append_nil] at found

end Wire

open Wire

namespace MessageType

theorem ofCode?_of_pos {code : Int32} (positive : 0 < code) :
    ofCode? code = some ⟨code, positive⟩ := by
  rw [ofCode?, dif_pos positive]

theorem ofCode?_of_not_pos {code : Int32} (negative : ¬ 0 < code) : ofCode? code = none := by
  rw [ofCode?, dif_neg negative]

end MessageType

namespace Frame

/-- What a header and the bytes behind it decode to. -/
theorem decode_header_append (header : Header) (rest : List UInt8) :
    decode (header.encode ++ rest) =
      match MessageType.ofCode? header.code with
      | none => .error (.invalidType header.code)
      | some type => (readPayload headerLength header.length.toNat rest).map fun payload =>
          ⟨type, header.sequence, asksReply header.flags, payload⟩ := by
  have behind : (header.encode ++ rest).drop headerLength = rest := by
    rw [← Header.length_encode header, List.drop_left]
  simp only [decode, Header.parse_encode, bind, Except.bind, behind]
  cases MessageType.ofCode? header.code with
  | none => rfl
  | some type =>
    simp only
    cases readPayload headerLength header.length.toNat rest with
    | error e => rfl
    | ok payload => rfl

theorem readPayload_of_le {before n : Nat} {bytes : List UInt8} (allowed : n ≤ Payload.limit)
    (enough : n ≤ bytes.length) :
    readPayload before n bytes = .ok ⟨bytes.take n, by rw [List.length_take]; omega⟩ := by
  rw [readPayload, dif_pos allowed, if_neg (by omega)]

theorem of_readPayload_eq_ok {before n : Nat} {bytes : List UInt8} {payload : Payload}
    (read : readPayload before n bytes = .ok payload) :
    n ≤ Payload.limit ∧ n ≤ bytes.length ∧ payload.bytes = bytes.take n := by
  unfold readPayload at read
  split at read
  · rename_i allowed
    split at read
    · cases read
    · rename_i whole
      cases read
      exact ⟨allowed, Nat.not_lt.1 whole, rfl⟩
  · cases read

/-- Bytes behind the announced payload make no difference. -/
theorem decode_header_take {header : Header} {rest : List UInt8}
    (allowed : header.length.toNat ≤ Payload.limit) (enough : header.length.toNat ≤ rest.length) :
    decode (header.encode ++ rest.take header.length.toNat) = decode (header.encode ++ rest) := by
  have taken : header.length.toNat ≤ (rest.take header.length.toNat).length := by
    rw [List.length_take]; omega
  rw [decode_header_append, decode_header_append, readPayload_of_le allowed enough,
    readPayload_of_le allowed taken]
  simp only [List.take_take, Nat.min_self]

theorem decode_of_le {header : Header} {rest : List UInt8} (positive : 0 < header.code)
    (allowed : header.length.toNat ≤ Payload.limit) (enough : header.length.toNat ≤ rest.length) :
    ∃ frame : Frame, decode (header.encode ++ rest) = .ok frame ∧
      frame.payload.length = header.length.toNat := by
  rw [decode_header_append, MessageType.ofCode?_of_pos positive, readPayload_of_le allowed enough]
  exact ⟨_, rfl, by simp [Payload.length, enough]⟩

/-- What decodes to a frame begins with a header of a good type and the payload that it
announces. -/
theorem exists_header_of_decode {bytes : List UInt8} {frame : Frame}
    (decoded : decode bytes = .ok frame) :
    ∃ (header : Header) (rest : List UInt8), bytes = header.encode ++ rest ∧ 0 < header.code ∧
      header.length.toNat ≤ Payload.limit ∧ header.length.toNat ≤ rest.length ∧
      frame.payload.length = header.length.toNat := by
  have parsed : ∃ header, Header.parse bytes = .ok header := by
    cases met : Header.parse bytes with
    | error e => simp [decode, met, bind, Except.bind] at decoded
    | ok header => exact ⟨header, rfl⟩
  obtain ⟨_, parsed⟩ := parsed
  obtain ⟨enough, marked⟩ := Header.length_of_parse parsed
  obtain ⟨header, split⟩ := Header.exists_encode_append enough marked
  refine ⟨header, bytes.drop headerLength, split, ?_⟩
  rw [split, decode_header_append] at decoded
  rcases Decidable.em (0 < header.code) with positive | negative
  · rw [MessageType.ofCode?_of_pos positive] at decoded
    cases read : readPayload headerLength header.length.toNat (bytes.drop headerLength) with
    | error e => rw [read] at decoded; cases decoded
    | ok payload =>
      obtain ⟨allowed, whole, taken⟩ := of_readPayload_eq_ok read
      rw [read] at decoded
      cases decoded
      exact ⟨positive, allowed, whole, by rw [Payload.length, taken, List.length_take_of_le whole]⟩
  · rw [MessageType.ofCode?_of_not_pos negative] at decoded
    cases decoded

theorem decode_of_not_pos {header : Header} (rest : List UInt8) (negative : ¬ 0 < header.code) :
    decode (header.encode ++ rest) = .error (.invalidType header.code) := by
  rw [decode_header_append, MessageType.ofCode?_of_not_pos negative]

end Frame

end Telematics
