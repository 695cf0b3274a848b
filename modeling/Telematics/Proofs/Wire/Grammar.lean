/-
# Telematics.Proofs.Wire.Grammar -- which bytes are a frame, and what is wrong with others

The fields of a header are numbers at fixed places (`field`).  So which bytes begin
with a frame can be said by their places alone, and so can what is wrong with
others: `Reading` has a case for each fault, and the order of its cases is the order
in which faults are looked for.

* Decoding gives exactly what the bytes read as (`decode_eq_iff`).  Neither what
  follows a frame nor a flag without a meaning makes a difference
  (`decode_take_append`, `decode_with_flags`).
* A frame that is not complete is truncated, and the number of bytes that are needed
  is never more than the frame has (`decode_take_of_lt`).
* Nothing is looked for where there is no byte: the header comes out the same if each
  field is taken from its place and nothing stands in for a byte that is missing
  (`parseInPlace_eq`), and so does the payload (`slice?_of_decode`).
-/
import Telematics.Proofs.Wire.Leading

namespace Telematics

set_option autoImplicit false

namespace Wire

/-! ## Fields at their places -/

/-- The number that some bytes stand for, the least significant first. -/
def littleEndian : List UInt8 → Nat
  | [] => 0
  | byte :: bytes => byte.toNat + 0x100 * littleEndian bytes

/-- The number in the four bytes from a place on. -/
def field (bytes : List UInt8) (place : Nat) : UInt32 :=
  UInt32.ofNat (littleEndian ((bytes.drop place).take 4))

/-- The bytes of a frame with other flags. -/
def withFlags (bytes : List UInt8) (flags : UInt32) : List UInt8 :=
  bytes.take 12 ++ (word flags ++ bytes.drop 16)

/-- The bytes from one place up to another, if all of them are there. -/
def slice? (bytes : List UInt8) (start stop : Nat) : Option (List UInt8) :=
  if start ≤ stop ∧ stop ≤ bytes.length then some ((bytes.take stop).drop start) else none

/-- The number in the four bytes from a place on, if all of them are there. -/
def field? (bytes : List UInt8) (place : Nat) : Option UInt32 :=
  (slice? bytes place (place + 4)).map fun four => UInt32.ofNat (littleEndian four)

theorem littleEndian_word (w : UInt32) : littleEndian (word w) = w.toNat := by
  have bound : w.toNat < 4294967296 := w.toNat_lt
  simp only [word, littleEndian, UInt8.toNat_ofNat']
  omega

theorem field_append (before : List UInt8) (w : UInt32) (rest : List UInt8) :
    field (before ++ (word w ++ rest)) before.length = w := by
  rw [field, List.drop_left, List.take_left' (length_word w), littleEndian_word,
    UInt32.ofNat_toNat]

theorem field_take {bytes : List UInt8} {place count : Nat} (inside : place + 4 ≤ count) :
    field (bytes.take count) place = field bytes place := by
  rw [field, field, List.drop_take, List.take_take, Nat.min_eq_left (by omega)]

theorem field?_of_le {bytes : List UInt8} {place : Nat} (inside : place + 4 ≤ bytes.length) :
    field? bytes place = some (field bytes place) := by
  rw [field?, slice?, if_pos ⟨Nat.le_add_right place 4, inside⟩, List.drop_take,
    Nat.add_sub_cancel_left]
  rfl

namespace Header

/-- The header whose fields stand at their places in some bytes. -/
def atPlaces (bytes : List UInt8) : Header :=
  ⟨(field bytes 8).toInt32, field bytes 12, field bytes 16, field bytes 20⟩

/-- The fields of a header stand at their places. -/
theorem atPlaces_encode_append (header : Header) (rest : List UInt8) :
    atPlaces (header.encode ++ rest) = header := by
  obtain ⟨code, flags, sequence, length⟩ := header
  have codes := field_append marker code.toUInt32
    (word flags ++ (word sequence ++ (word length ++ rest)))
  have flagged := field_append (marker ++ word code.toUInt32) flags
    (word sequence ++ (word length ++ rest))
  have numbered := field_append (marker ++ (word code.toUInt32 ++ word flags)) sequence
    (word length ++ rest)
  have announced := field_append
    (marker ++ (word code.toUInt32 ++ (word flags ++ word sequence))) length rest
  simp only [List.append_assoc] at codes flagged numbered announced
  simp only [atPlaces, encode, List.append_assoc, mk.injEq]
  exact ⟨(congrArg UInt32.toInt32 codes).trans code.toInt32_toUInt32, flagged, numbered, announced⟩

theorem withFlags_encode_append (header : Header) (rest : List UInt8) (flags : UInt32) :
    withFlags (header.encode ++ rest) flags = Header.encode { header with flags } ++ rest := rfl

/-- The header at the front of some bytes, each field from its place; there is none if a place is
missing. -/
def parseInPlace (bytes : List UInt8) : Option (Except FrameError Header) :=
  match slice? bytes 0 marker.length with
  | none => some (.error (.truncated headerLength bytes.length))
  | some front =>
    if front ≠ marker then some (.error .badMarker)
    else if bytes.length < headerLength then
      some (.error (.truncated headerLength bytes.length))
    else do
      let code ← field? bytes 8
      let flags ← field? bytes 12
      let sequence ← field? bytes 16
      let length ← field? bytes 20
      return .ok ⟨code.toInt32, flags, sequence, length⟩

/-- A header is parsed exactly from bytes that begin with the marker and are long enough. -/
theorem parse_eq (bytes : List UInt8) :
    parse bytes =
      if bytes.length < marker.length then .error (.truncated headerLength bytes.length)
      else if bytes.take marker.length ≠ marker then .error .badMarker
      else if bytes.length < headerLength then .error (.truncated headerLength bytes.length)
      else .ok (atPlaces bytes) := by
  split
  · rename_i few
    rw [parse, if_pos few]
  rename_i eight
  split
  · rename_i other
    exact parse_of_take_ne_marker (Nat.not_lt.1 eight) other
  rename_i marked
  split
  · rename_i few
    cases parsed : parse bytes with
    | ok header =>
      have enough := (length_of_parse parsed).1
      omega
    | error e =>
      rw [parse, if_neg eight, if_neg marked] at parsed
      cases read : readFields? (bytes.drop marker.length) with
      | none =>
        rw [read] at parsed
        exact parsed.symm
      | some header =>
        rw [read] at parsed
        cases parsed
  · rename_i enough
    obtain ⟨header, whole⟩ :=
      exists_encode_append (Nat.not_lt.1 enough) (Decidable.not_not.1 marked)
    rw [whole, parse_encode, atPlaces_encode_append]

/-- No field is looked for where there is no byte. -/
theorem parseInPlace_eq (bytes : List UInt8) : parseInPlace bytes = some (parse bytes) := by
  have eight : marker.length = 8 := rfl
  have all : headerLength = 24 := rfl
  rw [parse_eq, parseInPlace]
  by_cases few : bytes.length < marker.length
  · rw [slice?, if_neg (by omega), if_pos few]
  rw [slice?, if_pos (by omega), if_neg few]
  simp only [List.drop_zero]
  by_cases other : bytes.take marker.length ≠ marker
  · rw [if_pos other, if_pos other]
  rw [if_neg other, if_neg other]
  by_cases short : bytes.length < headerLength
  · rw [if_pos short, if_pos short]
  rw [if_neg short, if_neg short, field?_of_le (by omega), field?_of_le (by omega),
    field?_of_le (by omega), field?_of_le (by omega)]
  rfl

end Header

/-- The number of announced bytes is known from the same bytes as the header. -/
theorem peekLength_eq (bytes : List UInt8) :
    peekLength bytes = (Header.parse bytes).map fun header => header.length.toNat := by
  rw [peekLength]
  cases Header.parse bytes <;> rfl

theorem asksReply_eq (flags : UInt32) : asksReply flags = decide (flags &&& 1 ≠ 0) := by
  rw [asksReply, decide_eq_decide, ne_eq, ← UInt32.toNat_inj, UInt32.toNat_and, UInt32.toNat_one,
    Nat.and_one_is_mod, UInt32.toNat_zero]
  omega

end Wire

open Wire

namespace Frame

/-! ## Reading -/

/-- What some bytes read as: the frame that they begin with, or the first of their faults. -/
inductive Reading (bytes : List UInt8) : Except FrameError Frame → Prop where
  /-- There is no room for the marker. -/
  | few (short : bytes.length < marker.length) :
      Reading bytes (.error (.truncated headerLength bytes.length))
  | foreign (enough : marker.length ≤ bytes.length) (other : bytes.take marker.length ≠ marker) :
      Reading bytes (.error .badMarker)
  /-- There is the marker and no room for the fields. -/
  | cut (marked : bytes.take marker.length = marker) (short : bytes.length < headerLength)
      (enough : marker.length ≤ bytes.length) :
      Reading bytes (.error (.truncated headerLength bytes.length))
  | untyped (marked : bytes.take marker.length = marker) (enough : headerLength ≤ bytes.length)
      (negative : (field bytes 8).toInt32 ≤ 0) :
      Reading bytes (.error (.invalidType (field bytes 8).toInt32))
  | tooLong (marked : bytes.take marker.length = marker) (enough : headerLength ≤ bytes.length)
      (positive : 0 < (field bytes 8).toInt32)
      (long : Payload.limit < (field bytes 20).toNat) :
      Reading bytes (.error (.lengthTooLarge (field bytes 20).toNat Payload.limit))
  /-- There is less payload than announced. -/
  | incomplete (marked : bytes.take marker.length = marker) (enough : headerLength ≤ bytes.length)
      (positive : 0 < (field bytes 8).toInt32)
      (allowed : (field bytes 20).toNat ≤ Payload.limit)
      (short : bytes.length < headerLength + (field bytes 20).toNat) :
      Reading bytes (.error (.truncated (headerLength + (field bytes 20).toNat) bytes.length))
  | whole (frame : Frame) (marked : bytes.take marker.length = marker)
      (enough : headerLength + (field bytes 20).toNat ≤ bytes.length)
      (allowed : (field bytes 20).toNat ≤ Payload.limit)
      (typed : frame.type.code = (field bytes 8).toInt32)
      (numbered : frame.sequence = field bytes 16)
      (asked : frame.replyRequired = decide (field bytes 12 &&& 1 ≠ 0))
      (carried : frame.payload.bytes = (bytes.drop headerLength).take (field bytes 20).toNat) :
      Reading bytes (.ok frame)

variable {bytes : List UInt8} {frame : Frame}

theorem decode_of_parse_eq_error {e : FrameError} (refused : Header.parse bytes = .error e) :
    decode bytes = .error e := by
  rw [decode, refused]
  rfl

/-- What is decoded from a header and what follows it, in terms of places. -/
theorem decode_of_marked (marked : bytes.take marker.length = marker)
    (enough : headerLength ≤ bytes.length) :
    decode bytes =
      match MessageType.ofCode? (field bytes 8).toInt32 with
      | none => .error (.invalidType (field bytes 8).toInt32)
      | some type =>
        (readPayload headerLength (field bytes 20).toNat (bytes.drop headerLength)).map
          fun payload => ⟨type, field bytes 16, asksReply (field bytes 12), payload⟩ := by
  obtain ⟨header, split⟩ := Header.exists_encode_append enough marked
  have same : Header.atPlaces bytes = header := by
    rw [split, Header.atPlaces_encode_append]
  cases same
  conv => lhs; rw [split, decode_header_append]
  rfl

/-- What some bytes read as is what they decode to. -/
theorem Reading.decode_eq {result : Except FrameError Frame} (reads : Reading bytes result) :
    decode bytes = result := by
  have all : headerLength = 24 := rfl
  have behind : (bytes.drop headerLength).length = bytes.length - headerLength := List.length_drop
  cases reads with
  | few short => exact decode_of_parse_eq_error (by rw [Header.parse_eq, if_pos short])
  | foreign enough other =>
    exact decode_of_parse_eq_error (Header.parse_of_take_ne_marker enough other)
  | cut marked short enough =>
    refine decode_of_parse_eq_error ?_
    rw [Header.parse_eq, if_neg (Nat.not_lt.2 enough), if_neg (fun other => other marked),
      if_pos short]
  | untyped marked enough negative =>
    rw [decode_of_marked marked enough,
      MessageType.ofCode?_of_not_pos (Int32.not_lt.2 negative)]
  | tooLong marked enough positive long =>
    rw [decode_of_marked marked enough, MessageType.ofCode?_of_pos positive, readPayload,
      dif_neg (Nat.not_le.2 long)]
    rfl
  | incomplete marked enough positive allowed short =>
    have total : headerLength + (bytes.drop headerLength).length = bytes.length := by omega
    rw [decode_of_marked marked enough, MessageType.ofCode?_of_pos positive, readPayload,
      dif_pos allowed, if_pos (by omega), total]
    rfl
  | whole frame marked enough allowed typed numbered asked carried =>
    have positive : 0 < (field bytes 8).toInt32 := typed ▸ frame.type.positive
    rw [decode_of_marked marked (by omega), MessageType.ofCode?_of_pos positive,
      readPayload_of_le allowed (by omega), asksReply_eq]
    obtain ⟨⟨code, _⟩, sequence, replyRequired, ⟨carries, _⟩⟩ := frame
    cases typed
    cases numbered
    cases asked
    cases carried
    rfl

/-- All bytes read as something. -/
theorem exists_reading (bytes : List UInt8) : ∃ result, Reading bytes result := by
  rcases Nat.lt_or_ge bytes.length marker.length with few | eight
  · exact ⟨_, .few few⟩
  by_cases marked : bytes.take marker.length = marker
  case neg => exact ⟨_, .foreign eight marked⟩
  rcases Nat.lt_or_ge bytes.length headerLength with cut | enough
  · exact ⟨_, .cut marked cut eight⟩
  by_cases positive : 0 < (field bytes 8).toInt32
  case neg => exact ⟨_, .untyped marked enough (Int32.not_lt.1 positive)⟩
  rcases Nat.lt_or_ge Payload.limit (field bytes 20).toNat with long | allowed
  · exact ⟨_, .tooLong marked enough positive long⟩
  rcases Nat.lt_or_ge bytes.length (headerLength + (field bytes 20).toNat) with short | whole
  · exact ⟨_, .incomplete marked enough positive allowed short⟩
  · exact ⟨.ok ⟨⟨_, positive⟩, field bytes 16, _,
      ⟨(bytes.drop headerLength).take (field bytes 20).toNat, by rw [List.length_take]; omega⟩⟩,
      .whole _ marked whole allowed rfl rfl rfl rfl⟩

theorem decode_eq_iff {result : Except FrameError Frame} :
    decode bytes = result ↔ Reading bytes result := by
  refine ⟨?_, Reading.decode_eq⟩
  rintro rfl
  obtain ⟨result, reads⟩ := exists_reading bytes
  rwa [reads.decode_eq]

/-! ## What makes no difference -/

/-- The number of payload bytes is the announced one. -/
theorem length_payload_of_decode (decoded : decode bytes = .ok frame) :
    frame.payload.length = (field bytes 20).toNat := by
  cases decode_eq_iff.1 decoded with
  | whole _ _ enough _ _ _ _ carried =>
    rw [Payload.length, carried, List.length_take_of_le (by rw [List.length_drop]; omega)]

/-- The payload is taken from its place, and all of it is there. -/
theorem slice?_of_decode (decoded : decode bytes = .ok frame) :
    slice? bytes headerLength (headerLength + frame.payload.length) =
      some frame.payload.bytes := by
  rw [length_payload_of_decode decoded]
  cases decode_eq_iff.1 decoded with
  | whole _ _ enough _ _ _ _ carried =>
    rw [slice?, if_pos ⟨Nat.le_add_right _ _, enough⟩, List.drop_take, Nat.add_sub_cancel_left,
      carried]

/-- What follows a frame makes no difference to it. -/
theorem decode_take_append (decoded : decode bytes = .ok frame) (behind : List UInt8) :
    decode (bytes.take (headerLength + frame.payload.length) ++ behind) = .ok frame := by
  have enough := le_length_of_decode decoded
  have first := List.take_append_drop (headerLength + frame.payload.length) bytes
  rw [← first] at decoded
  exact decode_append (decode_of_append decoded (Nat.le_of_eq (List.length_take_of_le enough).symm))
    behind

/-- Of the flags only the lowest makes a difference. -/
theorem decode_with_flags (decoded : decode bytes = .ok frame) {flags : UInt32}
    (same : flags &&& 1 = field bytes 12 &&& 1) :
    decode (withFlags bytes flags) = .ok frame := by
  obtain ⟨header, rest, split, positive, allowed, enough, -⟩ := exists_header_of_decode decoded
  have placed : field bytes 12 = header.flags := by
    rw [split]
    exact congrArg Header.flags (Header.atPlaces_encode_append header rest)
  have asked : asksReply flags = asksReply header.flags := by
    rw [asksReply_eq, asksReply_eq, same, placed]
  rw [split, decode_header_append] at decoded
  rw [split, Header.withFlags_encode_append, decode_header_append, ← decoded]
  simp only [asked]

/-- As long as a frame is not complete it is truncated. -/
theorem decode_take_of_lt (decoded : decode bytes = .ok frame) {count : Nat}
    (few : count < headerLength + frame.payload.length) :
    ∃ needed, decode (bytes.take count) = .error (.truncated needed count) ∧ count < needed ∧
      needed ≤ headerLength + frame.payload.length := by
  have eight : marker.length = 8 := rfl
  have all : headerLength = 24 := rfl
  have whole := le_length_of_decode decoded
  have length : (bytes.take count).length = count := List.length_take_of_le (by omega)
  have truncated {needed : Nat}
      (reads : Reading (bytes.take count) (.error (.truncated needed (bytes.take count).length))) :
      decode (bytes.take count) = .error (.truncated needed count) := by
    rw [reads.decode_eq, length]
  rw [length_payload_of_decode decoded] at few ⊢
  cases decode_eq_iff.1 decoded with
  | whole _ marked _ allowed typed _ _ _ =>
    rcases Nat.lt_or_ge count marker.length with none | begun
    · exact ⟨headerLength, truncated (.few (by omega)), by omega, by omega⟩
    have still : (bytes.take count).take marker.length = marker := by
      rwa [List.take_take, Nat.min_eq_left begun]
    rcases Nat.lt_or_ge count headerLength with cut | fields
    · exact ⟨headerLength, truncated (.cut still (by omega) (by omega)), by omega, by omega⟩
    have announced : field (bytes.take count) 20 = field bytes 20 := field_take (by omega)
    have positive : 0 < (field (bytes.take count) 8).toInt32 := by
      rw [field_take (by omega), ← typed]
      exact frame.type.positive
    have reads := Reading.incomplete still (by omega) positive (by rwa [announced])
      (by rw [announced]; omega)
    rw [announced] at reads
    exact ⟨_, truncated reads, few, Nat.le_refl _⟩

/-- **Which bytes are a frame.**  Bytes decode to exactly what they read as, which is one of seven
cases: too few for the marker, another marker, too few for the fields, no type, too long, too few
for the payload, and a frame.  What follows the frame and the flags but the lowest make no
difference to it, and every proper beginning of it is truncated.  A header is parsed, and its length
known, unless one of the first three cases is there, and neither a field nor the payload is looked
for where there is no byte. -/
theorem decode_gives_reading (bytes : List UInt8) :
    (∀ result, decode bytes = result ↔ Reading bytes result) ∧
    (∀ frame, decode bytes = .ok frame →
      slice? bytes headerLength (headerLength + frame.payload.length) =
        some frame.payload.bytes ∧
      (∀ behind, decode (bytes.take (headerLength + frame.payload.length) ++ behind) = .ok frame) ∧
      (∀ flags, flags &&& 1 = field bytes 12 &&& 1 →
        decode (withFlags bytes flags) = .ok frame) ∧
      ∀ count, count < headerLength + frame.payload.length →
        ∃ needed, decode (bytes.take count) = .error (.truncated needed count) ∧
          count < needed ∧ needed ≤ headerLength + frame.payload.length) ∧
    Header.parse bytes =
      (if bytes.length < marker.length then .error (.truncated headerLength bytes.length)
      else if bytes.take marker.length ≠ marker then .error .badMarker
      else if bytes.length < headerLength then .error (.truncated headerLength bytes.length)
      else .ok ⟨(field bytes 8).toInt32, field bytes 12, field bytes 16, field bytes 20⟩) ∧
    (peekLength bytes = (Header.parse bytes).map fun header => header.length.toNat) ∧
    Header.parseInPlace bytes = some (Header.parse bytes) := by
  refine ⟨fun result => decode_eq_iff, ?_, Header.parse_eq bytes, peekLength_eq bytes,
    Header.parseInPlace_eq bytes⟩
  intro frame decoded
  exact ⟨slice?_of_decode decoded, decode_take_append decoded,
    fun flags => decode_with_flags decoded, fun count => decode_take_of_lt decoded⟩

end Frame

end Telematics
