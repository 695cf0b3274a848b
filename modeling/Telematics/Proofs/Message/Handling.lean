/-
# Telematics.Proofs.Message.Handling -- what holds of every message, whatever is done to it

A message is made from nothing, on a channel or otherwise, or comes out of bytes or out
of a connection.  It can be copied, given another payload, another mark or another
destination, and sent, any number of times and in any order.  A desk is where messages
lie in the meantime, and a step is one of these operations.

`step_changes` says all that a step does to the messages.  Two things follow.

* A payload that was set here stays below the limit (`sound_run`), and one that has
  arrived does not exceed it.  So every frame has room for its length, and everybody
  takes it for what it is.
* What is refused for the sake of a type or a payload changes no message; of the other
  failures only those of sending do, and they change no more than the mark of the
  message that was to be sent (`messages_of_error`).
-/
import Telematics.Proofs.Channel.Sending
import Telematics.Proofs.Wire.Grammar

namespace Telematics

set_option autoImplicit false

open Link Wire

/-! ## Making, filling and sending -/

theorem Message.payload_of_new {δ : Type} {code : Int32} {sequence : UInt32} {message : Message δ}
    (made : Message.new code sequence = .ok message) : message.frame.payload = .empty := by
  unfold Message.new at made
  cases kind : MessageType.ofCode code with
  | error e =>
    rw [kind] at made
    cases made
  | ok type =>
    rw [kind] at made
    cases made
    rfl

theorem Message.exists_payload_of_withPayload {δ : Type} {message message' : Message δ}
    {bytes : List UInt8} (filled : message.withPayload bytes = .ok message') :
    ∃ payload : Payload, payload.length < Payload.limit ∧
      message' = { message with frame.payload := payload } := by
  unfold withPayload at filled
  cases made : Payload.ofBytes bytes with
  | error e =>
    rw [made] at filled
    cases filled
  | ok payload =>
    rw [made] at filled
    cases filled
    obtain ⟨short, same⟩ := Payload.ofBytes_eq_ok_iff.1 made
    exact ⟨payload, by rwa [Payload.length, same], rfl⟩

/-- The length that a frame announces is that of its payload. -/
theorem Frame.field_encode (frame : Frame) :
    (field frame.encode 20).toNat = frame.payload.length := by
  have placed := Header.atPlaces_encode_append frame.header frame.payload.bytes
  exact (congrArg (fun header => header.length.toNat) placed).trans frame.length_header

namespace Channel

theorem payload_of_create {channel : Channel} {code : Int32} {destination : Handle}
    {message : Message Handle} (created : (channel.create code destination).1 = .ok message) :
    message.frame.payload = .empty := by
  unfold create at created
  cases made : (Message.new code channel.counter.take.1 : Except _ (Message Handle)) with
  | error e =>
    simp only [made] at created
    cases created
  | ok blank =>
    simp only [made] at created
    cases created
    have empty := Message.payload_of_new made
    exact empty

/-- The wait for a reply never fails for the sake of a type or a payload. -/
theorem collect_ne_message (settings : Settings) (f : Fabric) (source : Handle) (request : Frame)
    (cause : MessageError) : (collect settings f source request).1 ≠ .error (.message cause) := by
  intro failed
  simp only [collect] at failed
  cases read : (readFrom settings source f).1 with
  | error e =>
    rw [read] at failed
    cases failed
    rcases readFrame_error read with ⟨_, link⟩ | ⟨_, frame⟩
    · cases link
    · cases frame
  | ok reply =>
    rw [read] at failed
    simp only [bind, Except.bind, answerIn] at failed
    split at failed <;> cases failed

/-- What sending leads to as far as the message is concerned. -/
theorem send_message (settings : Settings) (f : Fabric) (message : Message Handle)
    (wantsReply : Bool) :
    ((send settings f message wantsReply).message = message ∨
      (send settings f message wantsReply).message = message.requestingReply wantsReply) ∧
    ∀ cause, (send settings f message wantsReply).result ≠ .error (.message cause) := by
  cases addressed : message.destination with
  | none =>
    rw [send_of_unaddressed settings addressed]
    exact ⟨.inl rfl, by rintro cause ⟨⟩⟩
  | some destination =>
    cases connected : f.isConnected destination with
    | false =>
      rw [send_of_hungUp settings addressed connected]
      exact ⟨.inl rfl, by rintro cause ⟨⟩⟩
    | true =>
      cases wrote : f.write destination settings.transferTimeout
          (message.requestingReply wantsReply).frame.encode with
      | mk result g =>
        cases result with
        | error e =>
          rw [send_of_write_error settings addressed connected wrote]
          exact ⟨.inr rfl, by rintro cause ⟨⟩⟩
        | ok n =>
          rw [send_of_write settings addressed connected wrote]
          cases wantsReply with
          | false => exact ⟨.inr rfl, by rintro cause ⟨⟩⟩
          | true =>
            refine ⟨.inr rfl, ?_⟩
            intro cause failed
            have never := collect_ne_message settings g destination
              (message.requestingReply true).frame cause
            simp only [if_true] at failed
            cases answer : (collect settings g destination
                (message.requestingReply true).frame).1 with
            | ok payload =>
              rw [answer] at failed
              cases failed
            | error e =>
              rw [answer] at failed never
              cases failed
              exact never rfl

end Channel

/-! ## The desk -/

/-- Where the payload of a message comes from. -/
inductive Origin where
  /-- It was set here, or none has been set yet. -/
  | here
  /-- It has arrived in a frame. -/
  | frame
  deriving Repr, DecidableEq

/-- A message, and where its payload comes from. -/
structure Held where
  message : Message Handle
  origin : Origin
  deriving DecidableEq

/-- A payload that was set here stays below the limit. -/
def Held.Sound (held : Held) : Prop :=
  held.origin = .here → held.message.frame.payload.length < Payload.limit

/-- Messages with which something is done, and what it is done with. -/
structure Desk where
  messages : List Held
  channels : List Channel
  fabric : Fabric

namespace Desk

/-- What can be done with messages; they and the channels go by their places. -/
inductive Operation where
  | new (code : Int32) (sequence : UInt32)
  | create (channel : Nat) (code : Int32) (destination : Handle)
  | decode (bytes : List UInt8)
  | receive (channel : Nat) (source : Handle)
  | copy (index : Nat)
  | setPayload (index : Nat) (bytes : List UInt8)
  | setReplyRequired (index : Nat) (wanted : Bool)
  | setDestination (index : Nat) (destination : Handle)
  | send (channel index : Nat) (wantsReply : Bool)
  /-- Others do something to the connections. -/
  | others (fabric : Fabric)

/-- A message is added, if there is one. -/
def add (desk : Desk) (origin : Origin) :
    Except ChannelError (Message Handle) → Except ChannelError Unit × Desk
  | .error e => (.error e, desk)
  | .ok message => (.ok (), { desk with messages := desk.messages ++ [⟨message, origin⟩] })

def replace (desk : Desk) (index : Nat) (held : Held) : Desk :=
  { desk with messages := desk.messages.set index held }

/-- Does something with the channel at a place, if there is one. -/
def onChannel (desk : Desk) (index : Nat)
    (act : Channel → Except ChannelError Unit × Desk) : Except ChannelError Unit × Desk :=
  match desk.channels[index]? with
  | none => (.ok (), desk)
  | some channel => act channel

/-- Does something with the message at a place, if there is one. -/
def onMessage (desk : Desk) (index : Nat)
    (act : Held → Except ChannelError Unit × Desk) : Except ChannelError Unit × Desk :=
  match desk.messages[index]? with
  | none => (.ok (), desk)
  | some held => act held

/-- One operation, and whether it succeeded. -/
def step (desk : Desk) : Operation → Except ChannelError Unit × Desk
  | .new code sequence => desk.add .here ((Message.new code sequence).mapError .message)
  | .create index code destination => desk.onChannel index fun channel =>
    let created := channel.create code destination
    { desk with channels := desk.channels.set index created.2 }.add .here created.1
  | .decode bytes =>
    desk.add .frame (((Frame.decode bytes).map fun frame => ⟨frame, none⟩).mapError .frame)
  | .receive index source => desk.onChannel index fun channel =>
    let received := Channel.receive channel.settings desk.fabric source
    { desk with fabric := received.2 }.add .frame received.1
  | .copy index => desk.onMessage index fun held =>
    (.ok (), { desk with messages := desk.messages ++ [held] })
  | .setPayload index bytes => desk.onMessage index fun held =>
    match held.message.withPayload bytes with
    | .error e => (.error (.message e), desk)
    | .ok message => (.ok (), desk.replace index ⟨message, .here⟩)
  | .setReplyRequired index wanted => desk.onMessage index fun held =>
    (.ok (), desk.replace index { held with message := held.message.requestingReply wanted })
  | .setDestination index destination => desk.onMessage index fun held =>
    (.ok (), desk.replace index { held with message := held.message.addressed destination })
  | .send channel index wantsReply => desk.onChannel channel fun channel =>
    desk.onMessage index fun held =>
      let sent := Channel.send channel.settings desk.fabric held.message wantsReply
      (sent.result.map fun _ => (),
        { desk with fabric := sent.fabric }.replace index { held with message := sent.message })
  | .others fabric => (.ok (), { desk with fabric })

/-- Operation after operation, whether they succeed or fail. -/
def run (desk : Desk) (operations : List Operation) : Desk :=
  operations.foldl (fun desk operation => (desk.step operation).2) desk

/-! ## What a step changes -/

/-- What an operation that ends like this does to the messages. -/
inductive Change (messages : List Held) :
    Operation → Except ChannelError Unit → List Held → Prop where
  | none {operation : Operation} {result : Except ChannelError Unit} :
      Change messages operation result messages
  /-- A message is added; if it comes from nothing, it carries nothing. -/
  | added {operation : Operation} (held : Held)
      (blank : held.origin = .here → held.message.frame.payload = .empty) :
      Change messages operation (.ok ()) (messages ++ [held])
  | copied {operation : Operation} (held : Held) (there : held ∈ messages) :
      Change messages operation (.ok ()) (messages ++ [held])
  | filled {operation : Operation} {index : Nat} (held : Held)
      (there : messages[index]? = some held) (payload : Payload)
      (short : payload.length < Payload.limit) :
      Change messages operation (.ok ())
        (messages.set index ⟨{ held.message with frame.payload := payload }, .here⟩)
  | marked {operation : Operation} {index : Nat} (held : Held)
      (there : messages[index]? = some held) (wanted : Bool) :
      Change messages operation (.ok ())
        (messages.set index { held with message := held.message.requestingReply wanted })
  | addressed {operation : Operation} {index : Nat} (held : Held)
      (there : messages[index]? = some held) (destination : Handle) :
      Change messages operation (.ok ())
        (messages.set index { held with message := held.message.addressed destination })
  /-- An attempt to send a message has marked it. -/
  | tried {channel index : Nat} {wantsReply : Bool} {result : Except ChannelError Unit}
      (held : Held) (there : messages[index]? = some held)
      (other : ∀ cause, result ≠ .error (.message cause)) :
      Change messages (.send channel index wantsReply) result
        (messages.set index { held with message := held.message.requestingReply wantsReply })

section Changes

variable {desk : Desk} {operation : Operation}

theorem changes_add (desk : Desk) {origin : Origin} {result : Except ChannelError (Message Handle)}
    (blank : ∀ message, result = .ok message → origin = .here → message.frame.payload = .empty) :
    Change desk.messages operation (desk.add origin result).1
      (desk.add origin result).2.messages := by
  cases result with
  | error e => exact .none
  | ok message => exact .added ⟨message, origin⟩ (blank message rfl)

theorem changes_onChannel {index : Nat} {act : Channel → Except ChannelError Unit × Desk}
    (changes : ∀ channel, Change desk.messages operation (act channel).1 (act channel).2.messages) :
    Change desk.messages operation (desk.onChannel index act).1
      (desk.onChannel index act).2.messages := by
  unfold onChannel
  cases desk.channels[index]? with
  | none => exact .none
  | some channel => exact changes channel

theorem changes_onMessage {index : Nat} {act : Held → Except ChannelError Unit × Desk}
    (changes : ∀ held, desk.messages[index]? = some held →
      Change desk.messages operation (act held).1 (act held).2.messages) :
    Change desk.messages operation (desk.onMessage index act).1
      (desk.onMessage index act).2.messages := by
  unfold onMessage
  cases there : desk.messages[index]? with
  | none => exact .none
  | some held => exact changes held there

theorem changes_send {channel index : Nat} {held : Held}
    (there : desk.messages[index]? = some held) (settings : Channel.Settings) (wantsReply : Bool) :
    let sent := Channel.send settings desk.fabric held.message wantsReply
    Change desk.messages (.send channel index wantsReply) (sent.result.map fun _ => ())
      (desk.messages.set index { held with message := sent.message }) := by
  intro sent
  obtain ⟨left | asked, never⟩ := Channel.send_message settings desk.fabric held.message wantsReply
  · have same : desk.messages.set index { held with message := sent.message } = desk.messages := by
      obtain ⟨inside, here⟩ := List.getElem?_eq_some_iff.1 there
      rw [left, ← here, List.set_getElem_self]
    rw [same]
    exact .none
  · rw [asked]
    refine .tried held there ?_
    intro cause failed
    cases result : sent.result with
    | error e =>
      rw [result] at failed
      cases failed
      exact never cause result
    | ok reply =>
      rw [result] at failed
      cases failed

end Changes

/-- An operation changes the messages in one of these ways. -/
theorem step_changes (desk : Desk) (operation : Operation) :
    Change desk.messages operation (desk.step operation).1 (desk.step operation).2.messages := by
  cases operation with
  | new code sequence =>
    refine changes_add desk ?_
    intro message made _
    cases created : (Message.new code sequence : Except _ (Message Handle)) with
    | error e =>
      rw [created] at made
      cases made
    | ok blank =>
      rw [created] at made
      cases made
      exact Message.payload_of_new created
  | create index code destination =>
    refine changes_onChannel fun channel => ?_
    let counter := (channel.create code destination).2
    refine changes_add { desk with channels := desk.channels.set index counter } ?_
    intro message created _
    exact Channel.payload_of_create created
  | decode bytes => exact changes_add desk (by rintro _ _ ⟨⟩)
  | receive index source =>
    refine changes_onChannel fun channel => ?_
    let fabric := (Channel.receive channel.settings desk.fabric source).2
    exact changes_add { desk with fabric } (by rintro _ _ ⟨⟩)
  | copy index =>
    refine changes_onMessage fun held there => ?_
    exact .copied held (List.mem_of_getElem? there)
  | setPayload index bytes =>
    refine changes_onMessage fun held there => ?_
    cases filled : held.message.withPayload bytes with
    | error e => exact .none
    | ok message =>
      obtain ⟨payload, short, rfl⟩ := Message.exists_payload_of_withPayload filled
      exact .filled held there payload short
  | setReplyRequired index wanted =>
    exact changes_onMessage fun held there => .marked held there wanted
  | setDestination index destination =>
    exact changes_onMessage fun held there => .addressed held there destination
  | send channel index wantsReply =>
    refine changes_onChannel fun channel => changes_onMessage fun held there => ?_
    exact changes_send there channel.settings wantsReply
  | others fabric => exact .none

/-- What fails changes no message, unless it is an attempt to send one; and that changes no more
than its mark, and fails for another sake than that of a type or a payload. -/
theorem messages_of_error {desk : Desk} {operation : Operation} {e : ChannelError}
    (failed : (desk.step operation).1 = .error e) :
    (desk.step operation).2.messages = desk.messages ∨
      (∀ cause, e ≠ .message cause) ∧
      ∃ channel index wantsReply held, operation = .send channel index wantsReply ∧
        desk.messages[index]? = some held ∧
        (desk.step operation).2.messages = desk.messages.set index
          { held with message := held.message.requestingReply wantsReply } := by
  have change := step_changes desk operation
  rw [failed] at change
  generalize (desk.step operation).2.messages = messages at change
  cases change with
  | none => exact .inl rfl
  | @tried channel index wantsReply _ held there other =>
    refine .inr ⟨?_, channel, index, wantsReply, held, rfl, there, rfl⟩
    rintro cause rfl
    exact other cause rfl

/-! ## What holds of every message -/

section Soundness

variable {messages messages' : List Held} (sound : ∀ held ∈ messages, held.Sound)

include sound

theorem sound_append {new : Held} (fresh : new.Sound) : ∀ held ∈ messages ++ [new], held.Sound := by
  intro held present
  rcases List.mem_append.1 present with before | last
  · exact sound held before
  · rwa [List.mem_singleton.1 last]

theorem sound_set {old new : Held} {index : Nat} (there : messages[index]? = some old)
    (keeps : old.Sound → new.Sound) : ∀ held ∈ messages.set index new, held.Sound := by
  intro held present
  rcases List.mem_or_eq_of_mem_set present with before | rfl
  · exact sound held before
  · exact keeps (sound old (List.mem_of_getElem? there))

theorem Change.keeps_sound {operation : Operation} {result : Except ChannelError Unit}
    (change : Change messages operation result messages') : ∀ held ∈ messages', held.Sound := by
  cases change with
  | none => exact sound
  | added held blank =>
    refine sound_append sound ?_
    intro here
    rw [blank here]
    decide
  | copied held there => exact sound_append sound (sound held there)
  | filled held there payload short => exact sound_set sound there fun _ _ => short
  | marked held there wanted => exact sound_set sound there fun before => before
  | addressed held there destination => exact sound_set sound there fun before => before
  | tried held there => exact sound_set sound there fun before => before

end Soundness

/-- Whatever is done, and whether it succeeds or fails, payloads that were set here stay below the
limit. -/
theorem sound_run {desk : Desk} (sound : ∀ held ∈ desk.messages, held.Sound)
    (operations : List Operation) : ∀ held ∈ (desk.run operations).messages, held.Sound := by
  induction operations generalizing desk with
  | nil => exact sound
  | cons operation operations ih => exact ih ((step_changes desk operation).keeps_sound sound)

/-- **What holds of every message.**  Whatever has been done before, and whether it succeeded or
failed, its type is positive and its payload does not exceed the limit, and is below it if it was
set here.  So its frame has 24 bytes more than the payload, which are 65560 at most, and announces
the length that the payload has; and whoever decodes it, or receives what begins with it, gets just
this frame.  An operation that is refused for the sake of a type or a payload leaves every message
as it is.  So does any other that fails, except that an attempt to send a message may have marked
it. -/
theorem messages_stay_sound (channels : List Channel) (fabric : Fabric)
    (operations : List Operation) :
    let desk := run ⟨[], channels, fabric⟩ operations
    (∀ held ∈ desk.messages,
      let frame := held.message.frame
      0 < frame.type.code ∧ frame.payload.length ≤ Payload.limit ∧
      (held.origin = .here → frame.payload.length < Payload.limit) ∧
      frame.encode.length = 24 + frame.payload.length ∧ frame.encode.length ≤ 65560 ∧
      (field frame.encode 20).toNat = frame.payload.length ∧
      ∀ behind, Frame.decode (frame.encode ++ behind) = .ok frame ∧
        ∀ settings f source, f.queued source = frame.encode ++ behind →
          (Channel.receive settings f source).1 = .ok ⟨frame, some source⟩) ∧
    ∀ operation e, (desk.step operation).1 = .error e →
      (∀ cause, e = .message cause → (desk.step operation).2.messages = desk.messages) ∧
      ((desk.step operation).2.messages = desk.messages ∨
        ∃ channel index wantsReply held, operation = .send channel index wantsReply ∧
          desk.messages[index]? = some held ∧
          (desk.step operation).2.messages = desk.messages.set index
            { held with message := held.message.requestingReply wantsReply }) := by
  intro desk
  constructor
  · intro held present frame
    have length := Frame.length_encode frame
    have most : frame.payload.length ≤ Payload.limit := frame.payload.length_le
    refine ⟨frame.type.positive, most, ?_, length, ?_, frame.field_encode, ?_⟩
    · exact sound_run (by simp) operations held present
    · have allowed : Payload.limit = 65536 := rfl
      have before : headerLength = 24 := rfl
      omega
    · intro behind
      have decoded := Frame.decode_encode frame behind
      refine ⟨decoded, ?_⟩
      intro settings f source queued
      rw [← queued] at decoded
      exact (Channel.receive_of_decode settings decoded).1
  · intro operation e failed
    rcases messages_of_error failed with same | ⟨other, sent⟩
    · exact ⟨fun _ _ => same, .inl same⟩
    · exact ⟨fun cause refused => absurd refused (other cause), .inr sent⟩

end Desk

end Telematics
