/-
# Telematics.Proofs.Channel.Sending -- what sending leads to

Sending a message looks at where it goes, marks it as asking for a reply or not,
writes its frame, and reads one frame if a reply is wanted.  It can end at each
of these, and `send_exactly` says for each what has become of the message, of the
bytes that are on their way to the other side, and of those that have come from
there.

The reply is whatever frame stands first among the bytes that have come by then
(`collected`).  Its type and flags are not looked at; its number decides whether
it is the reply, and it is taken in either case.  If the bytes do not begin with a
frame, the reading fails, and sending with it.
-/
import Telematics.Proofs.Channel.Exchange
import Telematics.Proofs.Channel.Resume
import Telematics.Proofs.Link.Room
import Telematics.Proofs.Link.Written

namespace Telematics

set_option autoImplicit false

open Link Wire

namespace Channel

/-! ## Reading the reply -/

section Reading

variable {σ : Type} {read : Nat → σ → Except LinkError (List UInt8) × σ} {s : σ}

/-- Reading a frame keeps what each single reading keeps. -/
theorem readFrame_keeps {P : σ → Prop} (keeps : ∀ n s, P s → P (read n s).2) (first : P s) :
    P (readFrame read s).2 := by
  have between := keeps headerLength s first
  have way := readFrame_cases read s
  generalize readFrame read s = result at way
  cases way with
  | cut failed => rwa [failed] at between
  | refused taken => rwa [taken] at between
  | @short header length _ s' _ taken failed =>
    rw [taken] at between
    have payload := keeps length s' between
    rwa [failed] at payload
  | @whole header payload length s' _ taken rest =>
    rw [taken] at between
    have payload := keeps length s' between
    rwa [rest] at payload

/-- Reading a frame fails because of the connection, or because the bytes are no frame. -/
theorem readFrame_error {e : ChannelError} (failed : (readFrame read s).1 = .error e) :
    (∃ cause, e = .link cause) ∨ ∃ cause, e = .frame cause := by
  have way := readFrame_cases read s
  generalize readFrame read s = result at way failed
  cases way with
  | cut _ =>
    cases failed
    exact .inl ⟨_, rfl⟩
  | refused _ =>
    cases failed
    exact .inr ⟨_, rfl⟩
  | short _ _ =>
    cases failed
    exact .inl ⟨_, rfl⟩
  | @whole header payload =>
    cases decoded : Frame.decode (header ++ payload) with
    | ok frame =>
      rw [decoded] at failed
      cases failed
    | error cause =>
      rw [decoded] at failed
      cases failed
      exact .inr ⟨cause, rfl⟩

end Reading

/-- What becomes of the wait for the reply to a request, some bytes having come from the other side
by then. -/
structure Collected (settings : Settings) (f : Fabric) (source : Handle) (request : Frame)
    (collected : Except ChannelError Payload × Fabric) : Prop where
  /-- Nothing else is touched than what has come from there. -/
  unread : ∃ pipe, collected.2 = f.withIncoming source pipe
  /-- A frame is taken as a whole, whichever it is, and nothing of what follows. -/
  taken : ∀ reply, Frame.decode (f.queued source) = .ok reply →
    headerLength + reply.payload.length ≤ (f.queued source).length ∧
      collected.2.queued source =
        (f.queued source).drop (headerLength + reply.payload.length)
  /-- A frame with the number of the request is the reply. -/
  answered : ∀ payload, collected.1 = .ok payload ↔
    ∃ reply, Frame.decode (f.queued source) = .ok reply ∧
      reply.sequence = request.sequence ∧ reply.payload = payload
  mismatched : ∀ expected actual, collected.1 = .error (.sequenceMismatch expected actual) ↔
    expected = request.sequence ∧ actual ≠ request.sequence ∧
      ∃ reply, Frame.decode (f.queued source) = .ok reply ∧ reply.sequence = actual
  /-- Without a frame the reading fails, and the wait with it. -/
  failed : (∀ reply, Frame.decode (f.queued source) ≠ .ok reply) →
    ∃ e, (readFrom settings source f).1 = .error e ∧ collected.1 = .error e ∧
      ((∃ cause, e = .link cause) ∨ ∃ cause, e = .frame cause)

section Collecting

variable {f : Fabric} {source : Handle}

theorem readFrom_unread (settings : Settings) (inside : source.link < f.length) :
    ∃ pipe, (readFrom settings source f).2 = f.withIncoming source pipe := by
  apply readFrame_keeps (P := fun g => ∃ pipe, g = f.withIncoming source pipe)
  · rintro n _ ⟨pipe, rfl⟩
    refine ⟨((f.withIncoming source pipe).incoming source |>.read n settings.transferTimeout).2, ?_⟩
    rw [Fabric.read_eq, Fabric.withIncoming_withIncoming _ _ inside]
  · exact ⟨f.incoming source, (Fabric.withIncoming_self inside).symm⟩

theorem collected_of_frame (settings : Settings) (inside : source.link < f.length) {reply : Frame}
    (decoded : Frame.decode (f.queued source) = .ok reply) (request : Frame) :
    Collected settings f source request (collect settings f source request) := by
  have whole : collect settings f source request =
      (answerIn request reply, behind f source (headerLength + reply.payload.length)) := by
    simp only [collect, readFrom_of_decode settings decoded]
    rfl
  have only : ∀ other, Frame.decode (f.queued source) = .ok other → reply = other :=
    fun other same => Except.ok.inj (decoded.symm.trans same)
  rw [whole]
  constructor
  · exact ⟨_, rfl⟩
  · intro other same
    cases only other same
    exact ⟨(receive_of_decode settings decoded).2.2, queued_behind inside⟩
  · intro payload
    constructor
    · intro answer
      dsimp only [answerIn] at answer
      split at answer
      · rename_i same
        cases answer
        exact ⟨reply, decoded, same, rfl⟩
      · cases answer
    · rintro ⟨other, same, number, rfl⟩
      cases only other same
      exact answerIn_of_sequence number
  · intro expected actual
    constructor
    · intro answer
      dsimp only [answerIn] at answer
      split at answer
      · cases answer
      · rename_i different
        cases answer
        exact ⟨rfl, different, reply, decoded, rfl⟩
    · rintro ⟨rfl, different, other, same, rfl⟩
      cases only other same
      exact if_neg different
  · intro none
    exact absurd decoded (none reply)

theorem collected_of_none (settings : Settings) (inside : source.link < f.length)
    (none : ∀ reply, Frame.decode (f.queued source) ≠ .ok reply) (request : Frame) :
    Collected settings f source request (collect settings f source request) := by
  cases read : (readFrom settings source f).1 with
  | ok reply => exact absurd (decode_of_readFrom inside read) (none reply)
  | error e =>
    have failed : (collect settings f source request).1 = .error e := by
      show (readFrom settings source f).1 >>= answerIn request = _
      rw [read]
      rfl
    have kind := readFrame_error read
    constructor
    · exact readFrom_unread settings inside
    · intro reply same
      exact absurd same (none reply)
    · intro payload
      rw [failed]
      constructor
      · rintro ⟨⟩
      · rintro ⟨reply, same, -⟩
        exact absurd same (none reply)
    · intro expected actual
      rw [failed]
      constructor
      · rintro ⟨⟩
        rcases kind with ⟨_, ⟨⟩⟩ | ⟨_, ⟨⟩⟩
      · rintro ⟨-, -, reply, same, -⟩
        exact absurd same (none reply)
    · intro _
      exact ⟨e, read, failed, kind⟩

/-- **What is collected** depends on the frame that stands first among what has come. -/
theorem collected (settings : Settings) (inside : source.link < f.length) (request : Frame) :
    Collected settings f source request (collect settings f source request) := by
  by_cases some : ∃ reply, Frame.decode (f.queued source) = .ok reply
  · obtain ⟨reply, decoded⟩ := some
    exact collected_of_frame settings inside decoded request
  · apply collected_of_none settings inside
    intro reply decoded
    exact some ⟨reply, decoded⟩

end Collecting

/-! ## Sending -/

section Sending

variable {f : Fabric} {message : Message Handle} {destination : Handle}

theorem send_of_unaddressed (settings : Settings) (unaddressed : message.destination = none)
    (wantsReply : Bool) :
    send settings f message wantsReply = ⟨.error .noDestination, message, f, []⟩ := by
  simp only [send, post, outbound, unaddressed]

theorem send_of_hungUp (settings : Settings) (addressed : message.destination = some destination)
    (hungUp : f.isConnected destination = false) (wantsReply : Bool) :
    send settings f message wantsReply = ⟨.error (.link .notConnected), message, f, []⟩ := by
  simp [send, post, outbound, addressed, hungUp]

section Connected

variable (settings : Settings) (addressed : message.destination = some destination)
  (connected : f.isConnected destination = true) {wantsReply : Bool}

include addressed connected

theorem send_of_write_error {e : LinkError} {g : Fabric}
    (cut : f.write destination settings.transferTimeout
      (message.requestingReply wantsReply).frame.encode = (.error e, g)) :
    send settings f message wantsReply =
      ⟨.error (.link e), message.requestingReply wantsReply, g, []⟩ := by
  simp only [send, post, outbound_eq addressed connected, cut]

theorem send_of_write {n : Nat} {g : Fabric}
    (written : f.write destination settings.transferTimeout
      (message.requestingReply wantsReply).frame.encode = (.ok n, g)) :
    send settings f message wantsReply =
      if wantsReply then
        let answer := collect settings g destination (message.requestingReply wantsReply).frame
        ⟨answer.1.map some, message.requestingReply wantsReply, answer.2,
          noticesOf destination answer.1⟩
      else ⟨.ok none, message.requestingReply wantsReply, g, []⟩ := by
  simp only [send, post, outbound_eq addressed connected, written]

end Connected

/-- **What sending leads to.**  A message that goes nowhere, or to where nobody is, is left as it
was and nothing is written or read.  Otherwise just its mark is set, as asking for a reply or not.
If its frame can be written, all of it stands behind what was written before, and else a proper
beginning of it, and sending fails with that.  Who wants no reply reads nothing; who wants one gets
what is collected from the bytes that have come by then, which `Collected` describes whatever else
happens before. -/
theorem send_exactly (settings : Settings) (f : Fabric) (message : Message Handle)
    (wantsReply : Bool) :
    let sent := send settings f message wantsReply
    let asked := message.requestingReply wantsReply
    let bytes := asked.frame.encode
    (message.destination = none → sent = ⟨.error .noDestination, message, f, []⟩) ∧
    (∀ destination, message.destination = some destination → f.isConnected destination = false →
      sent = ⟨.error (.link .notConnected), message, f, []⟩) ∧
    (∀ destination, message.destination = some destination → f.isConnected destination = true →
      let before := (f.outgoing destination).queue
      let written := (f.write destination settings.transferTimeout bytes).1
      (∀ e, written = .error e → ∃ count pipe, count < bytes.length ∧
        pipe.queue = before ++ bytes.take count ∧
        sent = ⟨.error (.link e), asked, f.withOutgoing destination pipe, []⟩) ∧
      (∀ n, written = .ok n → ∃ pipe, pipe.queue = before ++ bytes ∧
        let posted := f.withOutgoing destination pipe
        let answer := collect settings posted destination asked.frame
        (wantsReply = false → sent = ⟨.ok none, asked, posted, []⟩) ∧
        (wantsReply = true → sent =
          ⟨answer.1.map some, asked, answer.2, noticesOf destination answer.1⟩) ∧
        posted.queued destination = f.queued destination ∧
        (sent.fabric.outgoing destination).queue = before ++ bytes ∧
        ∀ g : Fabric, destination.link < g.length → Collected settings g destination message.frame
          (collect settings g destination asked.frame))) := by
  intro sent asked bytes
  refine ⟨?_, ?_, ?_⟩
  · intro unaddressed
    exact send_of_unaddressed settings unaddressed wantsReply
  · intro destination addressed hungUp
    exact send_of_hungUp settings addressed hungUp wantsReply
  intro destination addressed connected before written
  have inside := Fabric.lt_length_of_connected connected
  have stands := f.written destination settings.transferTimeout bytes
  cases wrote : f.write destination settings.transferTimeout bytes with
  | mk result g =>
    have same : written = result := congrArg Prod.fst wrote
    rw [wrote] at stands
    rw [same]
    constructor
    · rintro e rfl
      cases stands with
      | @part _ count pipe short queue =>
        exact ⟨count, pipe, short, queue, send_of_write_error settings addressed connected wrote⟩
    · rintro n rfl
      cases stands with
      | @whole pipe queue =>
        refine ⟨pipe, queue, ?_⟩
        intro posted answer
        have there : destination.link < posted.length := by
          rwa [Fabric.length_withOutgoing]
        have ran := send_of_write settings addressed connected wrote
        have writes : posted.outgoing destination = pipe := Fabric.outgoing_withOutgoing pipe inside
        refine ⟨?_, ?_, ?_, ?_, ?_⟩
        · rintro rfl
          exact ran
        · rintro rfl
          exact ran
        · exact congrArg Pipe.queue (Fabric.incoming_withOutgoing pipe inside)
        · rw [← queue, ← writes]
          show ((send settings f message wantsReply).fabric.outgoing destination).queue = _
          rw [ran]
          cases wantsReply with
          | false => rfl
          | true =>
            obtain ⟨unread, touched⟩ := (collected settings there asked.frame).unread
            show (answer.2.outgoing destination).queue = _
            rw [touched, Fabric.outgoing_withIncoming _ there]
        · intro g into
          have kept : Collected settings g destination asked.frame _ :=
            collected settings into asked.frame
          exact { kept with }

/-- A message that asks for no reply, and the frame of another type with the same number. -/
def question : Message Handle :=
  ⟨⟨⟨11, by decide⟩, 5, false, ⟨[0xAA], by decide⟩⟩, some ⟨0, .near, unnamed⟩⟩

def retort : Frame := ⟨⟨12, by decide⟩, 5, true, ⟨[0x01, 0x02], by decide⟩⟩

/-- Who sends the message and wants a reply gets the payload of that frame, and what follows the
frame stays. -/
theorem send_exactly_question :
    let destination : Handle := ⟨0, .near, unnamed⟩
    let f : Fabric := [⟨.new, ⟨retort.encode ++ [0x54], [⟨27, 768⟩], .live⟩⟩]
    let sent := send .standard f question true
    f.isConnected destination = true ∧
      sent.result = .ok (some retort.payload) ∧ sent.message = question.requestingReply true ∧
      (sent.fabric.outgoing destination).queue = (question.requestingReply true).frame.encode ∧
      sent.fabric.queued destination = [0x54] := by
  intro destination f sent
  obtain ⟨-, -, there⟩ := send_exactly .standard f question true
  obtain ⟨-, posted⟩ := there destination rfl rfl
  have wrote : (f.write destination Settings.standard.transferTimeout
      (question.requestingReply true).frame.encode).1 = .ok 25 := by
    have few : (question.requestingReply true).frame.encode.length ≤ 2 * Packet.sizeLimit := by
      decide
    rw [Fabric.write_eq rfl]
    exact Pipe.write_new _ few
  obtain ⟨pipe, -, -, same, queued, writes, collects⟩ := posted 25 wrote
  have here := collects (f.withOutgoing destination pipe) Nat.zero_lt_one
  have decoded : Frame.decode ((f.withOutgoing destination pipe).queued destination) =
      .ok retort := by
    rw [queued]
    exact Frame.decode_encode retort [0x54]
  have answer := (here.answered retort.payload).2 ⟨retort, decoded, rfl, rfl⟩
  have left := (here.taken retort decoded).2
  rw [queued] at left
  refine ⟨rfl, ?_, ?_, writes, ?_⟩
  · show (send .standard f question true).result = _
    rw [same rfl]
    exact congrArg (Except.map some) answer
  · show (send .standard f question true).message = _
    rw [same rfl]
  · show (send .standard f question true).fabric.queued destination = _
    rw [same rfl]
    exact left

end Sending

end Channel

end Telematics
