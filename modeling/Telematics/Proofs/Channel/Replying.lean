/-
# Telematics.Proofs.Channel.Replying -- answering a message

Whoever answers a message makes a message of the same type and number with a
payload of its own and sends it back without waiting for anything.  Four things
are looked at before a byte is written, in this order: whether the message asks
for a reply, whether it came from somewhere, whether the payload stays below the
limit, and whether the other side is still there.  The type is not one of them,
for that of a message is good already (`Message.new_of_frame`).

If the reply can be written at all it is one frame (`reply_exactly`), it is what
whoever has sent the message waits for, and as it asks for no reply itself nobody
can answer it.
-/
import Telematics.Proofs.Channel.Sending

namespace Telematics

set_option autoImplicit false

open Link Wire

/-- A message can be made with the type of any other. -/
theorem Message.new_of_frame {δ : Type} (frame : Frame) :
    (Message.new frame.type.code frame.sequence : Except MessageError (Message δ)) =
      .ok ⟨⟨frame.type, frame.sequence, false, .empty⟩, none⟩ := by
  simp only [Message.new, MessageType.ofCode_code, bind, Except.bind, pure, Except.pure]

theorem Payload.ofBytes_of_long {bytes : List UInt8} (long : limit ≤ bytes.length) :
    ofBytes bytes = .error (.payloadTooLarge bytes.length limit) := by
  rw [ofBytes, dif_neg (Nat.not_lt.2 long)]

namespace Channel

variable {f : Fabric} {request : Message Handle} {destination : Handle}

/-! ## What is refused -/

theorem replyTo_of_unasked (unasked : request.frame.replyRequired = false)
    (payload : List UInt8) : replyTo request payload = .error .replyNotRequested := by
  simp [replyTo, unasked]

theorem replyTo_of_unaddressed (asks : request.frame.replyRequired = true)
    (unaddressed : request.destination = none) (payload : List UInt8) :
    replyTo request payload = .error .noDestination := by
  simp [replyTo, asks, unaddressed]

theorem replyTo_of_long (asks : request.frame.replyRequired = true)
    (addressed : request.destination = some destination) {payload : List UInt8}
    (long : Payload.limit ≤ payload.length) :
    replyTo request payload =
      .error (.message (.payloadTooLarge payload.length Payload.limit)) := by
  simp only [replyTo, asks, addressed, Message.withPayload, Payload.ofBytes_of_long long]
  rfl

/-- No reply is refused for another reason than these. -/
theorem error_of_replyTo {payload : List UInt8} {e : ChannelError}
    (refused : replyTo request payload = .error e) :
    e = .replyNotRequested ∨ e = .noDestination ∨
      e = .message (.payloadTooLarge payload.length Payload.limit) := by
  cases asks : request.frame.replyRequired with
  | false =>
    rw [replyTo_of_unasked asks] at refused
    cases refused
    exact .inl rfl
  | true =>
    cases addressed : request.destination with
    | none =>
      rw [replyTo_of_unaddressed asks addressed] at refused
      cases refused
      exact .inr (.inl rfl)
    | some destination =>
      rcases Nat.lt_or_ge payload.length Payload.limit with short | long
      · have made : replyTo request payload = .ok _ :=
          @replyTo_eq request destination ⟨payload, Nat.le_of_lt short⟩ asks addressed short
        cases made.symm.trans refused
      · rw [replyTo_of_long asks addressed long] at refused
        cases refused
        exact .inr (.inr rfl)

/-- What is refused is not written. -/
theorem reply_of_refused (settings : Settings) {payload : List UInt8} {e : ChannelError}
    (refused : replyTo request payload = .error e) :
    reply settings f request payload = (.error e, f) := by
  simp only [reply, refused]

theorem reply_of_long (settings : Settings) {payload : List UInt8}
    (asks : request.frame.replyRequired = true)
    (addressed : request.destination = some destination)
    (long : Payload.limit ≤ payload.length) :
    reply settings f request payload =
      (.error (.message (.payloadTooLarge payload.length Payload.limit)), f) :=
  reply_of_refused settings (replyTo_of_long asks addressed long)

/-! ## What is sent -/

/-- The frame of the reply to a message. -/
def answerFrame (request : Message Handle) (payload : Payload) : Frame :=
  ⟨request.frame.type, request.frame.sequence, false, payload⟩

theorem reply_of_hungUp (settings : Settings) {payload : Payload}
    (asks : request.frame.replyRequired = true)
    (addressed : request.destination = some destination)
    (hungUp : f.isConnected destination = false) (short : payload.length < Payload.limit) :
    reply settings f request payload.bytes = (.error (.link .notConnected), f) := by
  have made : replyTo request payload.bytes =
      .ok ⟨answerFrame request payload, some destination⟩ := replyTo_eq asks addressed short
  have none : send settings f ⟨answerFrame request payload, some destination⟩ false = _ :=
    send_of_hungUp settings rfl hungUp false
  simp only [reply, made, none]
  rfl

/-- A reply that is not too long is one frame that is written to where the request came from. -/
theorem reply_of_short (settings : Settings) {payload : Payload}
    (asks : request.frame.replyRequired = true)
    (addressed : request.destination = some destination)
    (connected : f.isConnected destination = true) (short : payload.length < Payload.limit) :
    reply settings f request payload.bytes =
      (((f.write destination settings.transferTimeout
          (answerFrame request payload).encode).1.map fun _ => ()).mapError .link,
        (f.write destination settings.transferTimeout (answerFrame request payload).encode).2) := by
  have out : outbound f ⟨answerFrame request payload, some destination⟩ false =
      .ok (destination, ⟨answerFrame request payload, some destination⟩) :=
    outbound_eq rfl connected false
  have made : replyTo request payload.bytes =
      .ok ⟨answerFrame request payload, some destination⟩ := replyTo_eq asks addressed short
  simp only [reply, made, send, post, out]
  generalize f.write destination settings.transferTimeout (answerFrame request payload).encode =
    written
  obtain ⟨result, f'⟩ := written
  cases result <;> rfl

/-! ## What is waited for -/

/-- Whoever waits for a frame finds it, whatever follows. -/
theorem collect_of_encode (settings : Settings) {source : Handle} {asked answer : Frame}
    {rest : List UInt8} (queued : f.queued source = answer.encode ++ rest)
    (same : answer.sequence = asked.sequence) :
    (collect settings f source asked).1 = .ok answer.payload := by
  have inside : source.link < f.length := by
    apply Fabric.lt_length_of_queued
    rw [queued]
    simp [Frame.encode, Header.encode, marker]
  have decoded : Frame.decode (f.queued source) = .ok answer := by
    rw [queued, Frame.decode_encode]
  exact ((collected settings inside asked).answered _).2 ⟨answer, decoded, same, rfl⟩

/-- A frame answers another one: it says what it is the answer to, whoever waits for it finds it,
whatever follows, and nobody can reply to it. -/
structure Answers (answer request : Frame) (payload : List UInt8) : Prop where
  type : answer.type = request.type
  sequence : answer.sequence = request.sequence
  unasking : answer.replyRequired = false
  payload : answer.payload.bytes = payload
  decoded : ∀ rest, Frame.decode (answer.encode ++ rest) = .ok answer
  found : ∀ (settings : Settings) (f : Fabric) (source : Handle) (asked : Frame)
    (rest : List UInt8), asked.sequence = request.sequence →
      f.queued source = answer.encode ++ rest →
        (collect settings f source asked).1 = .ok answer.payload
  unanswered : ∀ (settings : Settings) (f : Fabric) (received : Message Handle)
    (others : List UInt8), received.frame = answer →
      reply settings f received others = (.error .replyNotRequested, f)

theorem answers_answerFrame (request : Message Handle) (payload : Payload) :
    Answers (answerFrame request payload) request.frame payload.bytes where
  type := rfl
  sequence := rfl
  unasking := rfl
  payload := rfl
  decoded := (answerFrame request payload).decode_encode
  found := by
    intro settings f source asked rest same queued
    exact collect_of_encode settings queued same.symm
  unanswered := by
    intro settings f received others same
    apply reply_of_refused settings (replyTo_of_unasked _ others)
    rw [same]
    rfl

/-- **What replying leads to.**  A message that asks for no reply is not answered, nor one that came
from nowhere, nor with a payload that is too long, nor when the other side has hung up; the first of
these that holds is what is reported, and nothing is written.  There is no other reason not to make
a reply.  Otherwise, if the writing succeeds, one frame stands behind what was written before, which
answers the message.  If the writing fails, only a proper beginning of the frame is there. -/
theorem reply_exactly (settings : Settings) (f : Fabric) (request : Message Handle)
    (payload : List UInt8) :
    let replied := reply settings f request payload
    let asks := request.frame.replyRequired
    (asks = false → replied = (.error .replyNotRequested, f)) ∧
    (asks = true → request.destination = none → replied = (.error .noDestination, f)) ∧
    (∀ destination, asks = true → request.destination = some destination →
      (Payload.limit ≤ payload.length → replied =
        (.error (.message (.payloadTooLarge payload.length Payload.limit)), f)) ∧
      ∀ short : payload.length < Payload.limit,
        (f.isConnected destination = false → replied = (.error (.link .notConnected), f)) ∧
        (f.isConnected destination = true →
          let answer := answerFrame request ⟨payload, Nat.le_of_lt short⟩
          let before := (f.outgoing destination).queue
          let written := (f.write destination settings.transferTimeout answer.encode).1
          (∀ n, written = .ok n → ∃ pipe, pipe.queue = before ++ answer.encode ∧
            replied = (.ok (), f.withOutgoing destination pipe)) ∧
          (∀ e, written = .error e → ∃ count pipe, count < answer.encode.length ∧
            pipe.queue = before ++ answer.encode.take count ∧
            replied = (.error (.link e), f.withOutgoing destination pipe)) ∧
          Answers answer request.frame payload)) ∧
    (Message.new request.frame.type.code request.frame.sequence :
        Except MessageError (Message Handle)) =
      .ok ⟨⟨request.frame.type, request.frame.sequence, false, .empty⟩, none⟩ ∧
    (∀ e, replyTo request payload = .error e → e = .replyNotRequested ∨ e = .noDestination ∨
      e = .message (.payloadTooLarge payload.length Payload.limit)) := by
  intro replied asks
  refine ⟨?_, ?_, ?_, Message.new_of_frame request.frame, fun _ => error_of_replyTo⟩
  · intro unasked
    exact reply_of_refused settings (replyTo_of_unasked unasked payload)
  · intro asks unaddressed
    exact reply_of_refused settings (replyTo_of_unaddressed asks unaddressed payload)
  intro destination asks addressed
  refine ⟨reply_of_long settings asks addressed, ?_⟩
  intro short
  let whole : Payload := ⟨payload, Nat.le_of_lt short⟩
  constructor
  · intro hungUp
    show reply settings f request whole.bytes = _
    exact reply_of_hungUp settings asks addressed hungUp short
  intro connected answer before written
  have sent : replied = (((f.write destination settings.transferTimeout answer.encode).1.map
      fun _ => ()).mapError .link,
      (f.write destination settings.transferTimeout answer.encode).2) := by
    show reply settings f request whole.bytes = _
    exact reply_of_short settings asks addressed connected short
  have stands := f.written destination settings.transferTimeout answer.encode
  refine ⟨?_, ?_, answers_answerFrame request whole⟩
  · intro n wrote
    have ok : (f.write destination settings.transferTimeout answer.encode).1 = .ok n := wrote
    rw [sent]
    generalize f.write destination settings.transferTimeout answer.encode = both at stands ok
    cases stands with
    | @whole pipe queue => exact ⟨pipe, queue, rfl⟩
    | part short queue => cases ok
  · intro e wrote
    have cut : (f.write destination settings.transferTimeout answer.encode).1 = .error e := wrote
    rw [sent]
    generalize f.write destination settings.transferTimeout answer.encode = both at stands cut
    cases stands with
    | whole queue => cases cut
    | @part _ count pipe short queue =>
      cases cut
      exact ⟨count, pipe, short, queue, rfl⟩

/-- A question that has come from the near side, and the connection on which it came. -/
def inquiry : Message Handle :=
  ⟨⟨⟨13, by decide⟩, 6, true, .empty⟩, some ⟨0, .far, unnamed⟩⟩

/-- Who has asked the question gets the answer, and none that is as long as the limit. -/
theorem reply_exactly_inquiry :
    let replied := reply .standard [.new] inquiry [0x01, 0x02]
    replied.1 = .ok () ∧
      (collect .standard replied.2 ⟨0, .near, unnamed⟩ inquiry.frame).1 =
        .ok ⟨[0x01, 0x02], by decide⟩ ∧
      reply .standard [.new] inquiry (List.replicate 65536 0x2A) =
        (.error (.message (.payloadTooLarge 65536 65536)), [.new]) := by
  obtain ⟨-, -, sends, -⟩ := reply_exactly .standard [.new] inquiry [0x01, 0x02]
  obtain ⟨whole, -, answers⟩ := ((sends ⟨0, .far, unnamed⟩ rfl rfl).2 (by decide)).2 rfl
  have wrote : (Fabric.write [.new] ⟨0, .far, unnamed⟩ Settings.standard.transferTimeout
      (answerFrame inquiry ⟨[0x01, 0x02], by decide⟩).encode).1 = .ok 26 := by
    have few : (answerFrame inquiry ⟨[0x01, 0x02], by decide⟩).encode.length ≤
        2 * Packet.sizeLimit := by decide
    rw [Fabric.write_eq rfl]
    exact Pipe.write_new _ few
  obtain ⟨pipe, queue, replied⟩ := whole 26 wrote
  obtain ⟨-, -, refuses, -⟩ := reply_exactly .standard [.new] inquiry (List.replicate 65536 0x2A)
  have long := (refuses ⟨0, .far, unnamed⟩ rfl rfl).1 (by rw [List.length_replicate]; decide)
  refine ⟨?_, ?_, ?_⟩
  · rw [replied]
  · rw [replied]
    apply answers.found .standard _ ⟨0, .near, unnamed⟩ inquiry.frame [] rfl
    rw [List.append_nil]
    exact queue
  · rw [long, List.length_replicate]
    rfl

end Channel

end Telematics
