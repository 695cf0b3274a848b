/-
# Telematics.Proofs.Channel.Exchange -- making, sending and answering messages

A message with a good type and a payload below the limit can be made
(`create_eq`, `withPayload_of_lt`), it can be sent to where it is addressed while
the connection is there (`outbound_eq`), and if it asks for a reply it can be
answered (`replyTo_eq`).

A message that has been made carries the number that was up, and another payload
leaves it that (`of_create`, `of_withPayload`); a reply carries the number of the
message that it answers (`of_replyTo`).
-/
import Telematics.Channel.Exchange

namespace Telematics

set_option autoImplicit false

open Link

theorem Message.withPayload_of_lt {δ : Type} (message : Message δ) {bytes : List UInt8}
    (short : bytes.length < Payload.limit) :
    message.withPayload bytes =
      .ok { message with frame.payload := ⟨bytes, Nat.le_of_lt short⟩ } := by
  have made : Payload.ofBytes bytes = .ok ⟨bytes, Nat.le_of_lt short⟩ :=
    Payload.ofBytes_eq_ok_iff.2 ⟨short, rfl⟩
  simp only [withPayload, made, bind, Except.bind, pure, Except.pure]

theorem Message.of_withPayload {δ : Type} {message message' : Message δ} {bytes : List UInt8}
    (filled : message.withPayload bytes = .ok message') :
    message'.frame.sequence = message.frame.sequence ∧
      message'.destination = message.destination := by
  unfold withPayload at filled
  cases made : Payload.ofBytes bytes with
  | error e =>
    rw [made] at filled
    cases filled
  | ok payload =>
    rw [made] at filled
    cases filled
    exact ⟨rfl, rfl⟩

namespace Channel

theorem create_eq (channel : Channel) (type : MessageType) (destination : Handle) :
    channel.create type.code destination =
      (.ok ⟨⟨type, channel.counter.upcoming, false, .empty⟩, some destination⟩,
        { channel with counter := channel.counter.take.2 }) := by
  simp only [create, Message.new, MessageType.ofCode_code, bind, Except.bind, pure, Except.pure]
  rfl

theorem of_create {channel : Channel} {code : Int32} {destination : Handle}
    {message : Message Handle}
    (created : (channel.create code destination).1 = .ok message) :
    message.frame.sequence = channel.counter.upcoming ∧
      message.destination = some destination := by
  unfold create Message.new at created
  cases kind : MessageType.ofCode code with
  | error e =>
    rw [kind] at created
    cases created
  | ok type =>
    rw [kind] at created
    cases created
    exact ⟨rfl, rfl⟩

theorem outbound_eq {f : Fabric} {message : Message Handle} {destination : Handle}
    (addressed : message.destination = some destination)
    (connected : f.isConnected destination = true) (wantsReply : Bool) :
    outbound f message wantsReply = .ok (destination, message.requestingReply wantsReply) := by
  simp only [outbound, addressed, connected, if_true]

theorem replyTo_eq {request : Message Handle} {destination : Handle} {payload : Payload}
    (asks : request.frame.replyRequired = true)
    (addressed : request.destination = some destination) (short : payload.length < Payload.limit) :
    replyTo request payload.bytes =
      .ok ⟨⟨request.frame.type, request.frame.sequence, false, payload⟩, some destination⟩ := by
  have whole : ∀ message : Message Handle, message.withPayload payload.bytes = _ :=
    fun message => message.withPayload_of_lt short
  simp only [replyTo, asks, addressed, whole]
  rfl

/-- A reply answers a message that asks for one, goes to where that came from and has its number. -/
theorem of_replyTo {request message : Message Handle} {payload : List UInt8}
    (made : replyTo request payload = .ok message) :
    request.frame.replyRequired = true ∧ message.destination = request.destination ∧
      message.frame.sequence = request.frame.sequence ∧ message.frame.replyRequired = false ∧
      message.frame.payload.bytes = payload := by
  unfold replyTo at made
  split at made
  · cases made
  rename_i asks
  split at made
  · cases made
  rename_i destination addressed
  cases filled : Payload.ofBytes payload with
  | error e =>
    simp only [Message.withPayload, filled] at made
    cases made
  | ok whole =>
    simp only [Message.withPayload, filled] at made
    cases made
    exact ⟨by simpa using asks, addressed.symm, rfl, rfl, (Payload.ofBytes_eq_ok_iff.1 filled).2⟩

theorem answerIn_of_sequence {request reply : Frame} (same : reply.sequence = request.sequence) :
    answerIn request reply = .ok reply.payload := by
  rw [answerIn, if_pos same]

end Channel

end Telematics
