/-
# Telematics.Proofs.Channel.Receive -- receiving agrees with decoding

A message is received in two readings: the header first, and then as many bytes
as it announces.  Bytes that are followed by the end of the connection are
received as what they decode to (`receive_agrees_with_decode`), though the two
look at the same things in different orders: a receiver judges the announced
length before the type, and bytes that are too few are a short transfer for it,
never a truncated frame.

What is not part of the frame stays on the connection.
-/
import Telematics.Channel.Exchange
import Telematics.Proofs.Link.Pipe
import Telematics.Proofs.Wire.Decode

namespace Telematics.Channel

set_option autoImplicit false

open Link Wire

variable {f : Fabric} {source : Handle}

/-! ## Reading from a connection -/

/-- The connections when a side has read so many bytes. -/
def behind (f : Fabric) (source : Handle) (n : Nat) : Fabric :=
  f.withIncoming source ((f.incoming source).advance n)

theorem length_behind (n : Nat) : (behind f source n).length = f.length :=
  Fabric.length_withIncoming _ _ _

theorem incoming_behind {n : Nat} (inside : source.link < f.length) :
    (behind f source n).incoming source = (f.incoming source).advance n :=
  Fabric.incoming_withIncoming _ inside

theorem queued_behind {n : Nat} (inside : source.link < f.length) :
    (behind f source n).queued source = (f.queued source).drop n := by
  rw [Fabric.queued, incoming_behind inside, Pipe.queue_advance]
  rfl

theorem read_of_le (settings : Settings) {n : Nat} (enough : n ≤ (f.queued source).length) :
    f.read source settings.transferTimeout n =
      (.ok ((f.queued source).take n), behind f source n) := by
  rw [Fabric.read_eq, Pipe.read_of_le _ enough]
  rfl

theorem read_of_ended (settings : Settings) {n : Nat} (ended : (f.incoming source).ending = .ended)
    (few : (f.queued source).length < n) :
    ∃ f', f.read source settings.transferTimeout n =
      (.error (.shortTransfer .read (f.queued source).length n), f') := by
  obtain ⟨p, cut⟩ := Pipe.read_of_ended settings.transferTimeout ended few
  exact ⟨f.withIncoming source p, by rw [Fabric.read_eq, cut]; rfl⟩

/-! ## Reading a frame -/

/-- The ways in which the reading of a frame goes. -/
inductive FrameRead {σ : Type} (read : Nat → σ → Except LinkError (List UInt8) × σ) (s : σ) :
    Except ChannelError Frame × σ → Prop where
  /-- There is no header. -/
  | cut {e : LinkError} {s' : σ} (failed : read headerLength s = (.error e, s')) :
      FrameRead read s (.error (.link e), s')
  /-- The header is none, or what it announces is too long. -/
  | refused {header : List UInt8} {s' : σ} {e : FrameError}
      (taken : read headerLength s = (.ok header, s')) : FrameRead read s (.error (.frame e), s')
  /-- There is less than the header announces. -/
  | short {header : List UInt8} {length : Nat} {e : LinkError} {s' s'' : σ}
      (taken : read headerLength s = (.ok header, s')) (failed : read length s' = (.error e, s'')) :
      FrameRead read s (.error (.link e), s'')
  | whole {header payload : List UInt8} {length : Nat} {s' s'' : σ}
      (taken : read headerLength s = (.ok header, s'))
      (rest : read length s' = (.ok payload, s'')) :
      FrameRead read s ((Frame.decode (header ++ payload)).mapError .frame, s'')

theorem readFrame_cases {σ : Type} (read : Nat → σ → Except LinkError (List UInt8) × σ) (s : σ) :
    FrameRead read s (readFrame read s) := by
  unfold readFrame
  split
  · rename_i failed
    exact .cut failed
  rename_i header
  split
  · exact .refused header
  split
  · exact .refused header
  split
  · rename_i failed
    exact .short header failed
  · rename_i payload
    exact .whole header payload

theorem readFrom_of_short_header (settings : Settings)
    (ended : (f.incoming source).ending = .ended) (few : (f.queued source).length < headerLength) :
    ∃ f', readFrom settings source f =
      (.error (.link (.shortTransfer .read (f.queued source).length headerLength)), f') := by
  obtain ⟨f', cut⟩ := read_of_ended settings ended few
  exact ⟨f', by simp only [readFrom, readFrame, cut]⟩

theorem readFrom_of_bad_marker (settings : Settings)
    (enough : headerLength ≤ (f.queued source).length)
    (other : (f.queued source).take marker.length ≠ marker) :
    readFrom settings source f = (.error (.frame .badMarker), behind f source headerLength) := by
  have taken := read_of_le settings enough
  have length : marker.length ≤ ((f.queued source).take headerLength).length := by
    rw [List.length_take_of_le enough]; decide
  have still : ((f.queued source).take headerLength).take marker.length ≠ marker := by
    rwa [List.take_take, Nat.min_eq_left (by decide)]
  have refused := Header.parse_of_take_ne_marker length still
  simp only [readFrom, readFrame, taken, peekLength, refused, bind, Except.bind]

section Header

variable {header : Header} {rest : List UInt8} (queued : f.queued source = header.encode ++ rest)

include queued

theorem lt_length_of_header : source.link < f.length :=
  Fabric.lt_length_of_queued (by rw [queued]; simp [Header.encode, marker])

theorem read_header (settings : Settings) :
    f.read source settings.transferTimeout headerLength =
      (.ok header.encode, behind f source headerLength) := by
  have taken : f.read source settings.transferTimeout headerLength = _ :=
    read_of_le settings (by simp [queued])
  rwa [queued, ← Header.length_encode header, List.take_left, Header.length_encode] at taken

theorem queued_behind_header : (behind f source headerLength).queued source = rest := by
  rw [queued_behind (lt_length_of_header queued), queued, ← Header.length_encode header,
    List.drop_left]

theorem readFrom_of_too_long (settings : Settings) (long : Payload.limit < header.length.toNat) :
    readFrom settings source f =
      (.error (.frame (.lengthTooLarge header.length.toNat Payload.limit)),
        behind f source headerLength) := by
  simp only [readFrom, readFrame, read_header queued settings, peekLength_encode, if_pos long]

theorem readFrom_of_short_payload (settings : Settings)
    (ended : (f.incoming source).ending = .ended) (allowed : header.length.toNat ≤ Payload.limit)
    (few : rest.length < header.length.toNat) :
    ∃ f', readFrom settings source f =
      (.error (.link (.shortTransfer .read rest.length header.length.toNat)), f') := by
  have left := queued_behind_header queued
  have still : ((behind f source headerLength).incoming source).ending = .ended := by
    rw [incoming_behind (lt_length_of_header queued), Pipe.ending_advance, ended]
  obtain ⟨f', cut⟩ := read_of_ended settings still (by rwa [left])
  rw [left] at cut
  refine ⟨f', ?_⟩
  simp only [readFrom, readFrame, read_header queued settings, peekLength_encode,
    if_neg (Nat.not_lt.2 allowed), cut]

/-- A frame that is there as a whole is read as what it decodes to, in two readings. -/
theorem readFrom_eq_of_whole (settings : Settings) (allowed : header.length.toNat ≤ Payload.limit)
    (enough : header.length.toNat ≤ rest.length) :
    readFrom settings source f = ((Frame.decode (f.queued source)).mapError .frame,
      behind (behind f source headerLength) source header.length.toNat) := by
  have left := queued_behind_header queued
  have payload : (behind f source headerLength).read source settings.transferTimeout
      header.length.toNat = _ := read_of_le settings (by rwa [left])
  rw [left] at payload
  simp only [readFrom, readFrame, read_header queued settings, peekLength_encode,
    if_neg (Nat.not_lt.2 allowed), payload, Frame.decode_header_take allowed enough, queued]

/-- Nothing behind the frame is read. -/
theorem readFrom_of_whole (settings : Settings) (allowed : header.length.toNat ≤ Payload.limit)
    (enough : header.length.toNat ≤ rest.length) :
    ∃ f', readFrom settings source f = ((Frame.decode (f.queued source)).mapError .frame, f') ∧
      f'.queued source = (f.queued source).drop (headerLength + header.length.toNat) := by
  have inside := lt_length_of_header queued
  refine ⟨_, readFrom_eq_of_whole queued settings allowed enough, ?_⟩
  rw [queued_behind (by rwa [length_behind]), queued_behind inside, List.drop_drop]

end Header

/-! ## Receiving -/

theorem receive_eq {settings : Settings} {result : Except ChannelError Frame} {f' : Fabric}
    (read : readFrom settings source f = (result, f')) :
    receive settings f source = (result.map fun frame => ⟨frame, some source⟩, f') := by
  simp only [receive, read]

/-- What decodes to a frame is received as that frame, and nothing behind it is taken. -/
theorem receive_of_decode (settings : Settings) {frame : Frame}
    (decoded : Frame.decode (f.queued source) = .ok frame) :
    (receive settings f source).1 = .ok ⟨frame, some source⟩ ∧
      (receive settings f source).2.queued source =
        (f.queued source).drop (headerLength + frame.payload.length) ∧
      headerLength + frame.payload.length ≤ (f.queued source).length := by
  obtain ⟨header, rest, queued, -, allowed, enough, length⟩ :=
    Frame.exists_header_of_decode decoded
  obtain ⟨f', read, left⟩ := readFrom_of_whole queued settings allowed enough
  rw [receive_eq read, decoded]
  refine ⟨rfl, by rw [left, length], ?_⟩
  rw [queued, List.length_append, Header.length_encode, length]
  omega

theorem receive_of_bad_type (settings : Settings) {header : Header} {rest : List UInt8}
    (queued : f.queued source = header.encode ++ rest) (negative : ¬ 0 < header.code)
    (allowed : header.length.toNat ≤ Payload.limit) (enough : header.length.toNat ≤ rest.length) :
    (receive settings f source).1 = .error (.frame (.invalidType header.code)) ∧
      (receive settings f source).2.queued source =
        (f.queued source).drop (headerLength + header.length.toNat) := by
  obtain ⟨f', read, left⟩ := readFrom_of_whole queued settings allowed enough
  rw [receive_eq read]
  refine ⟨?_, left⟩
  rw [queued, Frame.decode_of_not_pos rest negative]
  rfl

/-- Bytes before the end that are not received as a frame are refused for a reason, and that a
frame is truncated is never the reason. -/
theorem decode_or_receive_error (settings : Settings)
    (ended : (f.incoming source).ending = .ended) :
    (∃ frame, Frame.decode (f.queued source) = .ok frame) ∨
      ∃ e, (receive settings f source).1 = .error e ∧
        ∀ needed available, e ≠ .frame (.truncated needed available) := by
  rcases Nat.lt_or_ge (f.queued source).length headerLength with few | enough
  · obtain ⟨f', read⟩ := readFrom_of_short_header settings ended few
    exact .inr ⟨_, by rw [receive_eq read]; rfl, by simp⟩
  by_cases marked : (f.queued source).take marker.length = marker
  · obtain ⟨header, queued⟩ := Header.exists_encode_append enough marked
    rcases Nat.lt_or_ge Payload.limit header.length.toNat with long | allowed
    · exact .inr ⟨_, by rw [receive_eq (readFrom_of_too_long queued settings long)]; rfl, by simp⟩
    rcases Nat.lt_or_ge ((f.queued source).drop headerLength).length header.length.toNat
      with few | whole
    · obtain ⟨f', read⟩ := readFrom_of_short_payload queued settings ended allowed few
      exact .inr ⟨_, by rw [receive_eq read]; rfl, by simp⟩
    by_cases positive : 0 < header.code
    · obtain ⟨frame, decoded, -⟩ := Frame.decode_of_le positive allowed whole
      exact .inl ⟨frame, by rw [queued, decoded]⟩
    · exact .inr ⟨_, (receive_of_bad_type settings queued positive allowed whole).1, by simp⟩
  · exact .inr ⟨_, by rw [receive_eq (readFrom_of_bad_marker settings enough marked)]; rfl, by simp⟩

/-- **Receiving agrees with decoding.**  From bytes that are followed by the end of the connection
a message is received exactly if they decode to its frame, and the bytes of that frame are taken.
Otherwise the error is, in this order: too few bytes for a header, a bad marker, too great a length,
too few bytes for the payload, a bad type.  A truncated frame is never reported. -/
theorem receive_agrees_with_decode (settings : Settings) (f : Fabric) (source : Handle)
    (ended : (f.incoming source).ending = .ended) :
    let bytes := f.queued source
    let result := (receive settings f source).1
    let after := (receive settings f source).2.queued source
    (∀ message, result = .ok message ↔
      ∃ frame, Frame.decode bytes = .ok frame ∧ message = ⟨frame, some source⟩) ∧
    (∀ message, result = .ok message →
      headerLength + message.frame.payload.length ≤ bytes.length ∧
      after = bytes.drop (headerLength + message.frame.payload.length)) ∧
    (bytes.length < headerLength →
      result = .error (.link (.shortTransfer .read bytes.length headerLength))) ∧
    (headerLength ≤ bytes.length → bytes.take marker.length ≠ marker →
      result = .error (.frame .badMarker)) ∧
    (headerLength ≤ bytes.length → bytes.take marker.length = marker →
      ∃ header, Header.parse bytes = .ok header ∧
        (Payload.limit < header.length.toNat →
          result = .error (.frame (.lengthTooLarge header.length.toNat Payload.limit)) ∧
          after = bytes.drop headerLength ∧
          (¬ 0 < header.code → Frame.decode bytes = .error (.invalidType header.code))) ∧
        (header.length.toNat ≤ Payload.limit →
          bytes.length < headerLength + header.length.toNat →
          result = .error (.link (.shortTransfer .read (bytes.length - headerLength)
            header.length.toNat))) ∧
        (header.length.toNat ≤ Payload.limit →
          headerLength + header.length.toNat ≤ bytes.length → ¬ 0 < header.code →
          result = .error (.frame (.invalidType header.code)) ∧
          after = bytes.drop (headerLength + header.length.toNat))) ∧
    ∀ needed available, result ≠ .error (.frame (.truncated needed available)) := by
  intro bytes result after
  have taken : ∀ message, result = .ok message →
      ∃ frame, Frame.decode bytes = .ok frame ∧ message = ⟨frame, some source⟩ := by
    intro message received
    rcases decode_or_receive_error settings ended with ⟨frame, decoded⟩ | ⟨e, error, -⟩
    · have given := (receive_of_decode settings decoded).1
      exact ⟨frame, decoded, Except.ok.inj (received.symm.trans given)⟩
    · cases received.symm.trans error
  refine ⟨fun message => ⟨taken message, ?_⟩, ?_, ?_, ?_, ?_, ?_⟩
  · rintro ⟨frame, decoded, rfl⟩
    exact (receive_of_decode settings decoded).1
  · intro message received
    obtain ⟨frame, decoded, rfl⟩ := taken message received
    have given := receive_of_decode settings decoded
    exact ⟨given.2.2, given.2.1⟩
  · intro few
    obtain ⟨f', read⟩ := readFrom_of_short_header settings ended few
    show (receive settings f source).1 = _
    rw [receive_eq read]
    rfl
  · intro enough other
    show (receive settings f source).1 = _
    rw [receive_eq (readFrom_of_bad_marker settings enough other)]
    rfl
  · intro enough marked
    obtain ⟨header, queued⟩ := Header.exists_encode_append enough marked
    have parsed : Header.parse bytes = .ok header := by
      rw [queued, Header.parse_encode]
    have length : (bytes.drop headerLength).length = bytes.length - headerLength :=
      List.length_drop
    refine ⟨header, parsed, fun long => ?_, fun allowed few => ?_, fun allowed whole negative => ?_⟩
    · have read := readFrom_of_too_long queued settings long
      refine ⟨?_, ?_, fun negative => ?_⟩
      · show (receive settings f source).1 = _
        rw [receive_eq read]
        rfl
      · show (receive settings f source).2.queued source = _
        rw [receive_eq read, queued_behind (lt_length_of_header queued)]
      · rw [queued, Frame.decode_of_not_pos _ negative]
    · obtain ⟨f', read⟩ :=
        readFrom_of_short_payload queued settings ended allowed (by omega)
      show (receive settings f source).1 = _
      rw [receive_eq read, ← length]
      rfl
    · exact receive_of_bad_type settings queued negative allowed (by omega)
  · intro needed available truncated
    rcases decode_or_receive_error settings ended with ⟨frame, decoded⟩ | ⟨e, error, other⟩
    · cases truncated.symm.trans (receive_of_decode settings decoded).1
    · exact other needed available (Except.error.inj (error.symm.trans truncated))

/-- A frame with a byte behind it, before the end: the frame is received and the byte stays. -/
theorem receive_with_byte_behind :
    let frame : Frame := ⟨⟨7, by decide⟩, 1, true, ⟨[0xAA, 0xBB], by decide⟩⟩
    let f : Fabric := [⟨⟨frame.encode ++ [0x54], [⟨27, 768⟩], .ended⟩, .new⟩]
    let source : Handle := ⟨0, .far, unnamed⟩
    (f.incoming source).ending = .ended ∧
      (receive .standard f source).1 = .ok ⟨frame, some source⟩ ∧
      (receive .standard f source).2.queued source = [0x54] := by
  intro frame f source
  have agrees := receive_agrees_with_decode .standard f source rfl
  have received := (agrees.1 ⟨frame, some source⟩).2 ⟨frame, Frame.decode_encode frame [0x54], rfl⟩
  exact ⟨rfl, received, (agrees.2.1 _ received).2⟩

end Telematics.Channel
