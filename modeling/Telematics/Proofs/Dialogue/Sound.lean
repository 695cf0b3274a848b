/-
# Telematics.Proofs.Dialogue.Sound -- what every step of a dialogue keeps

In either direction nothing is on its way but frames (`Carries`): towards the
session those that the caller has sent and the session has not received, and
towards the caller the replies that it has not read.  It reads one with each call
that waits for a reply, unless it gives up before the first byte comes; so the
replies that have been read are accounted for by the calls that have ended
(`Exchange`, `Exchange.Fits`), one for one.

Every step keeps this (`Sound.step`), and so does every run (`Sound.run`).
-/
import Telematics.Proofs.Channel.Carried
import Telematics.Proofs.Conversation.Sound
import Telematics.Proofs.Dialogue.Numbering

namespace Telematics.Dialogue

set_option autoImplicit false

open Link Conversation Channel

/-- A call to send that has ended. -/
structure Exchange where
  request : Frame
  result : Except ChannelError (Option Payload)
  /-- The reply that it has read, if any. -/
  read : Option Frame

/-- How a call to send may end when the time to wait for a reply is limited. -/
inductive Exchange.Fits (limit : Span) : Exchange → Prop
  | told {request : Frame} (quiet : request.replyRequired = false) :
      Fits limit ⟨request, .ok none, none⟩
  | unanswered {request : Frame} (asks : request.replyRequired = true) :
      Fits limit ⟨request, .error (.link (.timeout .read limit)), none⟩
  | answered {request : Frame} (asks : request.replyRequired = true) (reply : Frame) :
      Fits limit ⟨request, (answerIn request reply).map some, some reply⟩

/-- What a caller holds of a reply. -/
def heldAt : Caller.Stage → List UInt8
  | .reading _ _ held => held
  | _ => []

theorem heldAt_reading (message : Message Handle) (source : Handle) (held : List UInt8) :
    heldAt (.reading message source held) = held := rfl

/-- A caller sends to where it belongs, and waits only for replies that it has asked for. -/
def Aimed (handle : Handle) : Caller.Stage → Prop
  | .ready => True
  | .made message _ => message.destination = some handle
  | .writing _ target _ => target = handle
  | .reading message source _ => source = handle ∧ message.frame.replyRequired = true

/-- What the caller has begun to send has been received or is on its way. -/
def Asked (d : Dialogue) (up : List UInt8) : Prop :=
  ∃ taken pending : List Frame, d.caller.sent = taken ++ pending ∧
    d.seen = taken.map (received far) ∧ Carries d.held up d.caller.stage.left pending

/-- The replies to what has been received have been read by a call each or are on their way. -/
def Answered (limit : Span) (d : Dialogue) (down : List UInt8) : Prop :=
  ∃ (exchanges : List Exchange) (rest : List Frame),
    d.caller.sent = exchanges.map Exchange.request ++ d.caller.stage.current ∧
    d.caller.results = exchanges.map Exchange.result ∧ (∀ e ∈ exchanges, e.Fits limit) ∧
    d.calls.filterMap Call.frame? = exchanges.filterMap Exchange.read ++ rest ∧
    Carries (heldAt d.caller.stage) down d.left rest

/-- A call that ends is accounted for by what it has read. -/
theorem answered_finish {limit : Span} {d : Dialogue} {down : List UInt8} {e : Exchange}
    {exchanges : List Exchange} {rest : List Frame} (fits : e.Fits limit)
    (sent : d.caller.sent = exchanges.map Exchange.request ++ [e.request])
    (results : d.caller.results = exchanges.map Exchange.result)
    (fit : ∀ e ∈ exchanges, e.Fits limit)
    (replies : d.calls.filterMap Call.frame? =
      exchanges.filterMap Exchange.read ++ (e.read.toList ++ rest))
    (back : Carries [] down d.left rest) :
    Answered limit { d with caller := d.caller.finish e.result } down := by
  refine ⟨exchanges ++ [e], rest, ?_, ?_, ?_, ?_, back⟩
  · simp [Caller.finish, sent]
  · simp [Caller.finish, results]
  · intro other member
    rcases List.mem_append.1 member with before | last
    · exact fit other before
    · rw [List.mem_singleton.1 last]
      exact fits
  · cases read : e.read <;> simp [replies, read]

/-- What holds of a dialogue between two steps. -/
structure Sound (settings : Settings) (counter : SequenceCounter) (peer : String)
    (link : Connection) (d : Dialogue) : Prop where
  fabric : d.fabric = [link]
  up : link.fromNear.Sound
  down : link.fromFar.Sound
  handle : d.caller.handle = ⟨0, .near, peer⟩
  idle : d.caller.todo = []
  configured : d.channel.settings = settings
  numbered : Numbered counter d
  aimed : Aimed ⟨0, .near, peer⟩ d.caller.stage
  asked : Asked d link.fromNear.queue
  answered : Answered settings.transferTimeout d link.fromFar.queue
  calls : ∀ call ∈ d.calls, call.request ∈ d.seen

namespace Sound

variable {settings : Settings} {counter : SequenceCounter} {peer : String} {link : Connection}
  {d : Dialogue}

theorem start (channel : Channel) (peer : String) :
    Sound channel.settings channel.counter peer .new (Dialogue.start channel peer) where
  fabric := rfl
  up := Pipe.sound_new
  down := Pipe.sound_new
  handle := rfl
  idle := rfl
  configured := rfl
  numbered := .start channel peer
  aimed := trivial
  asked := ⟨[], [], rfl, rfl, .nil⟩
  answered := ⟨[], [], rfl, rfl, by simp, rfl, .nil⟩
  calls := by
    intro call member
    cases member

theorem found (sound : Sound settings counter peer link d) : d.fabric[0]? = some link := by
  rw [sound.fabric]
  rfl

theorem isConnected (sound : Sound settings counter peer link d) (side : Side) (name : String) :
    d.fabric.isConnected ⟨0, side, name⟩ = true :=
  Fabric.isConnected_of_live sound.found side sound.up.live

theorem queued (sound : Sound settings counter peer link d) :
    d.fabric.queued d.caller.handle = link.fromFar.queue := by
  rw [sound.handle, Fabric.queued, Fabric.incoming_near sound.found]

theorem withOutgoing_near (sound : Sound settings counter peer link d) (pipe : Pipe) :
    d.fabric.withOutgoing ⟨0, .near, peer⟩ pipe = [⟨pipe, link.fromFar⟩] := by
  rw [Fabric.withOutgoing_near sound.found, sound.fabric]
  rfl

theorem withIncoming_near (sound : Sound settings counter peer link d) (pipe : Pipe) :
    d.fabric.withIncoming ⟨0, .near, peer⟩ pipe = [⟨link.fromNear, pipe⟩] := by
  rw [Fabric.withIncoming_near sound.found, sound.fabric]
  rfl

theorem withOutgoing_far (sound : Sound settings counter peer link d) (pipe : Pipe) :
    d.fabric.withOutgoing far pipe = [⟨link.fromNear, pipe⟩] := by
  rw [far, Fabric.withOutgoing_far sound.found, sound.fabric]
  rfl

theorem withIncoming_far (sound : Sound settings counter peer link d) (pipe : Pipe) :
    d.fabric.withIncoming far pipe = [⟨pipe, link.fromFar⟩] := by
  rw [far, Fabric.withIncoming_far sound.found, sound.fabric]
  rfl

/-! ## The caller -/

theorem make (sound : Sound settings counter peer link d) (code : Int32) :
    Sound settings counter peer link (d.make code) :=
  { sound with numbered := sound.numbered.make code }

theorem fill (sound : Sound settings counter peer link d) (number : Nat) (payload : List UInt8) :
    Sound settings counter peer link (d.fill number payload) := by
  have numbered := sound.numbered.fill number payload
  revert numbered
  unfold Dialogue.fill
  split
  · split
    · intro numbered
      exact { sound with numbered }
    · intro _
      exact sound
  · intro _
    exact sound

theorem send (sound : Sound settings counter peer link d) (number : Nat) (wantsReply : Bool) :
    Sound settings counter peer link (d.send number wantsReply) := by
  have numbered := sound.numbered.send number wantsReply
  revert numbered
  unfold Dialogue.send
  split
  · rename_i message ready there
    intro numbered
    have destination := (sound.numbered.drafts number message there).2
    rw [sound.handle] at destination
    obtain ⟨taken, pending, split, seen, carries⟩ := sound.asked
    obtain ⟨exchanges, rest, sent, results, fit, replies, back⟩ := sound.answered
    rw [ready] at carries sent back
    exact { sound with
      numbered
      aimed := destination
      asked := ⟨taken, pending, split, seen, carries⟩
      answered := ⟨exchanges, rest, sent, results, fit, replies, back⟩ }
  · intro _
    exact sound

theorem begin (sound : Sound settings counter peer link d) {message : Message Handle}
    {wantsReply : Bool} (made : d.caller.stage = .made message wantsReply) :
    Sound settings counter peer link
      { d with caller := d.caller.begin d.fabric message wantsReply } := by
  have addressed := sound.aimed
  rw [made] at addressed
  have destination : message.destination = some d.caller.handle := by
    rw [sound.handle]
    exact addressed
  have connected : d.fabric.isConnected d.caller.handle = true := by
    rw [sound.handle]
    exact sound.isConnected .near peer
  obtain ⟨taken, pending, split, seen, carries⟩ := sound.asked
  obtain ⟨exchanges, rest, sent, results, fit, replies, back⟩ := sound.answered
  rw [made] at carries sent back
  rw [begin_eq destination connected]
  refine { sound with
    numbered := sound.numbered.congr rfl rfl rfl ?_
    aimed := sound.handle
    asked := ⟨taken, pending ++ [_], ?_, seen, carries.begin _⟩
    answered := ⟨exchanges, rest, ?_, results, fit, replies, back⟩ }
  · simp [numbers, made, pendingNumber, Message.requestingReply]
  · rw [split, List.append_assoc]
  · rw [sent]
    simp

theorem give (sound : Sound settings counter peer link d) {message : Message Handle}
    {target : Handle} {portion left : List UInt8} {pipe : Pipe}
    (writing : d.caller.stage = .writing message target (portion ++ left))
    (queue : pipe.queue = link.fromNear.queue ++ portion) (pipeSound : pipe.Sound) :
    Sound settings counter peer ⟨pipe, link.fromFar⟩
      { d with fabric := [⟨pipe, link.fromFar⟩], caller := d.caller.written message target left } := by
  have aimed := sound.aimed
  obtain ⟨taken, pending, split, seen, carries⟩ := sound.asked
  obtain ⟨exchanges, rest, sent, results, fit, replies, back⟩ := sound.answered
  rw [writing] at aimed carries sent back
  have given := carries.give
  rw [← queue] at given
  unfold Caller.written
  cases left with
  | cons byte left =>
    exact { sound with
      fabric := rfl
      up := pipeSound
      numbered := sound.numbered.congr rfl rfl rfl (by simp [numbers, writing, pendingNumber])
      aimed
      asked := ⟨taken, pending, split, seen, given⟩
      answered := ⟨exchanges, rest, sent, results, fit, replies, back⟩ }
  | nil =>
    cases asks : message.frame.replyRequired with
    | true =>
      exact { sound with
        fabric := rfl
        up := pipeSound
        numbered := sound.numbered.congr rfl rfl rfl (by simp [numbers, writing, pendingNumber])
        aimed := ⟨aimed, asks⟩
        asked := ⟨taken, pending, split, seen, given⟩
        answered := ⟨exchanges, rest, sent, results, fit, replies, back⟩ }
    | false =>
      refine { sound with
        fabric := rfl
        up := pipeSound
        numbered := sound.numbered.congr rfl rfl rfl ?_
        aimed := trivial
        asked := ⟨taken, pending, split, seen, given⟩
        answered := answered_finish (.told asks) sent results fit replies back }
      simp [numbers, writing, pendingNumber, Caller.finish]

/-- What has come of a reply is some of its bytes, or it is the reply that the call reads. -/
theorem collect (sound : Sound settings counter peer link d) {message : Message Handle}
    {source : Handle} {held bytes : List UInt8} {count : Nat} {pipe : Pipe}
    (reading : d.caller.stage = .reading message source held)
    (wanting : readingOf held = .wanting count) (some : bytes ≠ []) (few : bytes.length ≤ count)
    (queue : link.fromFar.queue = bytes ++ pipe.queue) (pipeSound : pipe.Sound) :
    Sound settings counter peer ⟨link.fromNear, pipe⟩
      { d with
        fabric := [⟨link.fromNear, pipe⟩]
        caller := d.caller.read message source (held ++ bytes) } := by
  have aimed := sound.aimed
  obtain ⟨taken, pending, split, seen, carries⟩ := sound.asked
  obtain ⟨exchanges, rest, sent, results, fit, replies, back⟩ := sound.answered
  rw [reading] at aimed carries sent back
  rw [heldAt_reading, queue] at back
  unfold Caller.read
  rcases back.take some wanting few with ⟨next, wants, goesOn⟩ | ⟨reply, others, rfl, whole, behind⟩
  · rw [wants]
    exact { sound with
      fabric := rfl
      down := pipeSound
      numbered := sound.numbered.congr rfl rfl rfl (by simp [numbers, reading, pendingNumber])
      aimed
      asked := ⟨taken, pending, split, seen, carries⟩
      answered := ⟨exchanges, rest, sent, results, fit, replies, goesOn⟩ }
  · rw [whole]
    refine { sound with
      fabric := rfl
      down := pipeSound
      numbered := sound.numbered.congr rfl rfl rfl ?_
      aimed := trivial
      asked := ⟨taken, pending, split, seen, carries⟩
      answered := answered_finish (.answered aimed.2 reply) sent results fit replies behind }
    simp [numbers, reading, pendingNumber, Caller.finish]

theorem goOn (sound : Sound settings counter peer link d) (most : Nat) :
    ∃ link', Sound settings counter peer link' (d.goOn most) := by
  unfold Dialogue.goOn Caller.step?
  cases stage : d.caller.stage with
  | ready =>
    rw [sound.idle]
    exact ⟨link, sound⟩
  | made message wantsReply => exact ⟨link, sound.begin stage⟩
  | writing message target left =>
    have aimed := sound.aimed
    rw [stage] at aimed
    cases (show target = ⟨0, .near, peer⟩ from aimed)
    simp only [Fabric.outgoing_near sound.found, sound.withOutgoing_near]
    cases given : link.fromNear.give? most (left.length ≠ message.frame.encode.length) left with
    | none => exact ⟨link, sound⟩
    | some given' =>
      obtain ⟨rest, pipe⟩ := given'
      obtain ⟨portion, -, split, queue, pipeSound⟩ := Pipe.give?_spec sound.up given
      rw [split] at stage
      exact ⟨⟨pipe, link.fromFar⟩, sound.give stage queue pipeSound⟩
  | reading message source held =>
    have aimed := sound.aimed
    rw [stage] at aimed
    cases (show source = ⟨0, .near, peer⟩ from aimed.1)
    cases came : readOn? most ⟨0, .near, peer⟩ d.fabric held with
    | none =>
      simp only [came, Option.map_none]
      exact ⟨link, sound⟩
    | some came' =>
      obtain ⟨further, fabric⟩ := came'
      obtain ⟨count, bytes, pipe, wanting, taken, rfl, rfl⟩ := readOn?_eq_some came
      rw [Fabric.incoming_near sound.found] at taken
      obtain ⟨some, few, queue, pipeSound⟩ := Pipe.take?_spec sound.down taken
      have collected := sound.collect stage wanting some
        (Nat.le_trans few (Nat.min_le_right _ _)) queue pipeSound
      rw [← sound.withIncoming_near] at collected
      simp only [came, Option.map_some]
      exact ⟨_, collected⟩

theorem giveUp (sound : Sound settings counter peer link d) :
    Sound settings counter peer link d.giveUp := by
  unfold Dialogue.giveUp
  split
  · rename_i message source reading
    split
    · exact sound
    · have aimed := sound.aimed
      obtain ⟨taken, pending, split, seen, carries⟩ := sound.asked
      obtain ⟨exchanges, rest, sent, results, fit, replies, back⟩ := sound.answered
      -- Nothing is held, so whoever reads next begins with the same reply.
      rw [reading] at aimed carries sent back
      refine { sound with
        numbered := sound.numbered.congr rfl rfl rfl ?_
        aimed := trivial
        asked := ⟨taken, pending, split, seen, carries⟩
        answered := ?_ }
      · simp [numbers, reading, pendingNumber, Caller.finish]
      · rw [sound.configured]
        exact answered_finish (.unanswered aimed.2) sent results fit replies back
  · exact sound

/-! ## The session -/

theorem receive (sound : Sound settings counter peer link d) (most : Nat) :
    ∃ link', Sound settings counter peer link' (d.receive most) := by
  unfold Dialogue.receive
  cases came : readOn? most far d.fabric d.held with
  | none => exact ⟨link, sound⟩
  | some came' =>
    obtain ⟨further, fabric⟩ := came'
    obtain ⟨count, bytes, pipe, wanting, portion, rfl, rfl⟩ := readOn?_eq_some came
    rw [far, Fabric.incoming_far sound.found] at portion
    obtain ⟨some, few, queue, pipeSound⟩ := Pipe.take?_spec sound.up portion
    obtain ⟨taken, pending, split, seen, carries⟩ := sound.asked
    rw [queue] at carries
    refine ⟨⟨pipe, link.fromFar⟩, ?_⟩
    rcases carries.take some wanting (Nat.le_trans few (Nat.min_le_right _ _)) with
      ⟨next, wants, goesOn⟩ | ⟨frame, others, rfl, whole, behind⟩
    · simp only [hear, wants]
      exact { sound with
        fabric := sound.withIncoming_far pipe
        up := pipeSound
        numbered := sound.numbered.congr rfl rfl rfl rfl
        asked := ⟨taken, pending, split, seen, goesOn⟩ }
    · simp only [hear, whole]
      refine { sound with
        fabric := sound.withIncoming_far pipe
        up := pipeSound
        numbered := sound.numbered.congr rfl rfl rfl rfl
        asked := ⟨taken ++ [frame], others, ?_, ?_, behind⟩
        calls := ?_ }
      · rw [split, List.append_assoc]
        rfl
      · rw [seen, List.map_append]
        rfl
      · intro call member
        exact List.mem_append_left _ (sound.calls call member)

theorem write (sound : Sound settings counter peer link d) (most : Nat) (begun : Bool) :
    ∃ link', Sound settings counter peer link' (d.write most begun) := by
  unfold Dialogue.write
  have outgoing : d.fabric.outgoing far = link.fromFar := Fabric.outgoing_far sound.found
  rw [outgoing]
  cases given : link.fromFar.give? most begun d.left with
  | none => exact ⟨link, sound⟩
  | some given' =>
    obtain ⟨left, pipe⟩ := given'
    obtain ⟨portion, -, split, queue, pipeSound⟩ := Pipe.give?_spec sound.down given
    obtain ⟨exchanges, rest, sent, results, fit, replies, back⟩ := sound.answered
    rw [split] at back
    have given := back.give
    rw [← queue] at given
    exact ⟨⟨link.fromNear, pipe⟩, { sound with
      fabric := sound.withOutgoing_far pipe
      down := pipeSound
      numbered := sound.numbered.congr rfl rfl rfl rfl
      answered := ⟨exchanges, rest, sent, results, fit, replies, given⟩ }⟩

theorem reply (sound : Sound settings counter peer link d) (number : Nat) (payload : List UInt8) :
    Sound settings counter peer link (d.reply number payload) := by
  unfold Dialogue.reply
  split
  case h_2 => exact sound
  rename_i request done there
  obtain ⟨taken, pending, split, seen, carries⟩ := sound.asked
  obtain ⟨exchanges, rest, sent, results, fit, replies, back⟩ := sound.answered
  have known : request ∈ d.seen := List.mem_of_getElem? there
  have calls : ∀ call ∈ d.calls ++ [⟨request, payload⟩], call.request ∈ d.seen := by
    intro call member
    rcases List.mem_append.1 member with before | last
    · exact sound.calls call before
    · rw [List.mem_singleton.1 last]
      exact known
  cases made : replyTo request payload with
  | error e =>
    -- A reply that is refused puts nothing on the way.
    have refused : (Call.mk request payload).frame? = none := by
      rw [Call.frame?, made]
      rfl
    have replies : (d.calls ++ [Call.mk request payload]).filterMap Call.frame? =
        exchanges.filterMap Exchange.read ++ rest := by
      rw [List.filterMap_append, replies]
      simp [refused]
    exact { sound with
      numbered := sound.numbered.congr rfl rfl rfl rfl
      answered := ⟨exchanges, rest, sent, results, fit, replies, back⟩
      calls }
  | ok message =>
    obtain ⟨-, destination, -, quiet, -⟩ := of_replyTo made
    have addressed : message.destination = some far := by
      rw [seen] at known
      obtain ⟨frame, -, rfl⟩ := List.mem_map.1 known
      exact destination
    have same : message.requestingReply false = message := by
      rw [Message.requestingReply, ← quiet]
    have written : (Call.mk request payload).frame? = some message.frame := by
      rw [Call.frame?, made]
      rfl
    have replies : (d.calls ++ [Call.mk request payload]).filterMap Call.frame? =
        exchanges.filterMap Exchange.read ++ (rest ++ [message.frame]) := by
      rw [List.filterMap_append, replies, List.append_assoc]
      simp [written]
    rw [done] at back
    have out := outbound_eq addressed (sound.isConnected .far unnamed) false
    rw [same] at out
    simp only [bind, Except.bind, out]
    exact { sound with
      numbered := sound.numbered.congr rfl rfl rfl rfl
      answered := ⟨exchanges, rest ++ [message.frame], sent, results, fit, replies, back.begin _⟩
      calls }

/-- Every step keeps what holds. -/
theorem step (sound : Sound settings counter peer link d) (choice : Choice) :
    ∃ link', Sound settings counter peer link' (d.step choice) := by
  cases choice with
  | make code => exact ⟨link, sound.make code⟩
  | fill number payload => exact ⟨link, sound.fill number payload⟩
  | send number wantsReply => exact ⟨link, sound.send number wantsReply⟩
  | goOn most => exact sound.goOn most
  | giveUp => exact ⟨link, sound.giveUp⟩
  | receive most => exact sound.receive most
  | reply number payload => exact ⟨link, sound.reply number payload⟩
  | write most begun => exact sound.write most begun

/-- Every run keeps what holds. -/
theorem run (sound : Sound settings counter peer link d) (choices : List Choice) :
    ∃ link', Sound settings counter peer link' (d.run choices) := by
  induction choices generalizing d link with
  | nil => exact ⟨link, sound⟩
  | cons choice choices ih =>
    obtain ⟨next, sound⟩ := sound.step choice
    exact ih sound

end Sound

end Telematics.Dialogue
