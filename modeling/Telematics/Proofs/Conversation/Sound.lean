/-
# Telematics.Proofs.Conversation.Sound -- what every step keeps

A caller and its session are `Sound` if they stand in one of the three ways and
what has been done fits: the caller has sent what it was asked to, as far as it
has come, each result is the one that is expected, and the session has handed on
what was sent, as far as it has come.

Every step of either keeps this and lowers the `cost`, which bounds the steps
that the two may still take (`Sound.caller_step`, `Sound.server_step`).
-/
import Telematics.Proofs.Channel.Exchange
import Telematics.Proofs.Conversation.Standing

namespace Telematics.Conversation

set_option autoImplicit false

open Link Wire

variable {σ : Type}

/-- A handler answers every message that asks for a reply, and with a payload that may be sent. -/
structure Answers (handler : Handler σ) (answer : Message Handle → Payload) : Prop where
  short : ∀ message, (answer message).length < Payload.limit
  takes : ∀ state message, message.frame.replyRequired = true →
    (handler.take state message).2 = some (answer message).bytes

/-- What sending a frame over a connection has to lead to. -/
def expected (answer : Message Handle → Payload) (source : Handle) (frame : Frame) :
    Except ChannelError (Option Payload) :=
  if frame.replyRequired then .ok (some (answer (received source frame))) else .ok none

theorem expected_of_asking {answer : Message Handle → Payload} {source : Handle} {frame : Frame}
    (asks : frame.replyRequired = true) :
    expected answer source frame =
      (Channel.answerIn frame (replyOf answer (received source frame))).map some := by
  have same : (replyOf answer (received source frame)).sequence = frame.sequence := rfl
  rw [expected, if_pos asks, Channel.answerIn_of_sequence same]
  rfl

/-- What of a request shows in a frame. -/
def Request.content (request : Request) : MessageType × List UInt8 × Bool :=
  (request.type, request.payload, request.wantsReply)

/-- What a frame shows of a request. -/
def contentOf (frame : Frame) : MessageType × List UInt8 × Bool :=
  (frame.type, frame.payload.bytes, frame.replyRequired)

/-- At a stage some requests have been taken up without anything having been sent. -/
inductive Prepared (handle : Handle) : Caller.Stage → List Request → Prop
  | ready : Prepared handle .ready []
  | made {message : Message Handle} (request : Request)
      (destination : message.destination = some handle)
      (type : message.frame.type = request.type)
      (payload : message.frame.payload.bytes = request.payload) :
      Prepared handle (.made message request.wantsReply) [request]
  | writing (message : Message Handle) (left : List UInt8) :
      Prepared handle (.writing message handle left) []
  | reading (message : Message Handle) (held : List UInt8) :
      Prepared handle (.reading message handle held) []

/-- What holds of a caller with some requests, its session and their connection between two
steps. -/
structure Sound (answer : Message Handle → Payload) (peer : String) (number : Nat)
    (requests : List Request) (caller : Caller) (server : Server) (link : Connection) : Prop where
  handle : caller.handle = ⟨number, .near, peer⟩
  source : server.session.source = ⟨number, .far, unnamed⟩
  running : server.session.worker.ended = none
  up : link.fromNear.Sound
  down : link.fromFar.Sound
  wishes : ∃ begun next, requests = begun ++ (next ++ caller.todo) ∧
    begun.map Request.content = caller.sent.map contentOf ∧ Prepared caller.handle caller.stage next
  results : ∃ finished, caller.sent = finished ++ caller.stage.current ∧
    caller.results = finished.map (expected answer ⟨number, .far, unnamed⟩)
  seen : ∃ taken pending, caller.sent = taken ++ pending ∧
    server.seen = taken.map (received ⟨number, .far, unnamed⟩) ∧
    Standing answer ⟨number, .far, unnamed⟩ caller.stage server.session.stage server.left
      link.fromNear.queue link.fromFar.queue pending

/-- A bound on the steps that a caller and its session may still take: a frame and the reply to it
have at most so many bytes, and each of them is written and read. -/
def cost (caller : Caller) (server : Server) (link : Connection) : Nat :=
  let bound := Wire.headerLength + Payload.limit
  let stage := match caller.stage with
    | .made _ _ => 4 * bound + 3
    | stage => 2 * stage.left.length
  (4 * bound + 4) * caller.todo.length + stage + 2 * server.left.length +
    link.fromNear.queue.length + link.fromFar.queue.length +
    (2 * bound + 1) * (caller.sent.length - server.seen.length)

/-! ## The steps of a caller -/

variable {answer : Message Handle → Payload} {peer : String} {number : Nat}
  {requests : List Request} {caller : Caller} {server : Server} {link : Connection}

/-- The message for a request, before it is known to ask for a reply. -/
def Request.message (request : Request) (sequence : UInt32) (destination : Handle) :
    Message Handle :=
  ⟨⟨request.type, sequence, false, ⟨request.payload, Nat.le_of_lt request.short⟩⟩,
    some destination⟩

theorem prepare_eq (caller : Caller) (channel : Channel) (request : Request)
    (todo : List Request) :
    caller.prepare channel request todo =
      ({ caller with
          todo
          stage := .made (request.message channel.counter.upcoming caller.handle)
            request.wantsReply },
        { channel with counter := channel.counter.take.2 }) := by
  have created := Channel.create_eq channel request.type caller.handle
  have whole : ∀ message : Message Handle, message.withPayload request.payload = _ :=
    fun message => message.withPayload_of_lt request.short
  simp only [Caller.prepare, created, bind, Except.bind, whole]
  rfl

theorem Sound.length_seen_le (sound : Sound answer peer number requests caller server link) :
    server.seen.length ≤ caller.sent.length := by
  obtain ⟨frames, pending, split, handed, -⟩ := sound.seen
  rw [handed, split, List.length_map, List.length_append]
  exact Nat.le_add_right _ _

theorem Sound.prepare (sound : Sound answer peer number requests caller server link)
    (channel : Channel) {request : Request} {todo : List Request} (ready : caller.stage = .ready)
    (next : caller.todo = request :: todo) :
    Sound answer peer number requests (caller.prepare channel request todo).1 server link ∧
      cost (caller.prepare channel request todo).1 server link < cost caller server link := by
  obtain ⟨begun, taken, wishes, fulfilled, prepared⟩ := sound.wishes
  obtain ⟨finished, whole, results⟩ := sound.results
  obtain ⟨frames, pending, split, handed, standing⟩ := sound.seen
  rw [ready] at prepared whole standing
  cases prepared
  rw [prepare_eq]
  refine ⟨⟨sound.handle, sound.source, sound.running, sound.up, sound.down, ?_, ?_, ?_⟩, ?_⟩
  · refine ⟨begun, [request], ?_, fulfilled, .made request rfl rfl rfl⟩
    rw [wishes, next]
    rfl
  · exact ⟨finished, whole, results⟩
  · exact ⟨frames, pending, split, handed, standing.prepare⟩
  · simp only [cost, headerLength, Payload.limit, ready, next, Caller.Stage.left_ready,
      List.length_cons, List.length_nil]
    omega

theorem begin_eq {f : Fabric} {message : Message Handle}
    (addressed : message.destination = some caller.handle)
    (connected : f.isConnected caller.handle = true) (wantsReply : Bool) :
    caller.begin f message wantsReply =
      { caller with
        stage := .writing (message.requestingReply wantsReply) caller.handle
          (message.requestingReply wantsReply).frame.encode
        sent := caller.sent ++ [(message.requestingReply wantsReply).frame] } := by
  simp only [Caller.begin, Channel.outbound_eq addressed connected wantsReply]

theorem length_encode_le (frame : Frame) : frame.encode.length ≤ headerLength + Payload.limit := by
  rw [Frame.length_encode]
  exact Nat.add_le_add_left frame.payload.length_le _

theorem Sound.begin (sound : Sound answer peer number requests caller server link) {f : Fabric}
    (found : f[number]? = some link) {message : Message Handle} {wantsReply : Bool}
    (made : caller.stage = .made message wantsReply) :
    Sound answer peer number requests (caller.begin f message wantsReply) server link ∧
      cost (caller.begin f message wantsReply) server link < cost caller server link := by
  obtain ⟨begun, taken, wishes, fulfilled, prepared⟩ := sound.wishes
  obtain ⟨finished, whole, results⟩ := sound.results
  obtain ⟨frames, pending, split, handed, standing⟩ := sound.seen
  have behind := sound.length_seen_le
  have connected : f.isConnected caller.handle = true := by
    rw [sound.handle]
    exact Fabric.isConnected_of_live found .near sound.up.live
  rw [made] at prepared whole standing
  cases prepared with
  | made request addressed type payload =>
    rw [begin_eq addressed connected]
    refine ⟨⟨sound.handle, sound.source, sound.running, sound.up, sound.down, ?_, ?_, ?_⟩, ?_⟩
    · refine ⟨begun ++ [request], [], ?_, ?_, .writing _ _⟩
      · rw [wishes]
        simp
      · have carries : request.content =
            contentOf (message.requestingReply request.wantsReply).frame := by
          rw [Request.content, ← type, ← payload]
          rfl
        show (begun ++ [request]).map _ = (caller.sent ++ [_]).map _
        rw [List.map_append, List.map_append, fulfilled, List.map_singleton, List.map_singleton,
          carries]
    · refine ⟨finished, ?_, results⟩
      show caller.sent ++ _ = _
      rw [whole, Caller.Stage.current_made, List.append_nil]
      rfl
    · refine ⟨frames, pending ++ [_], ?_, handed, standing.begin⟩
      show caller.sent ++ _ = _
      rw [split, List.append_assoc]
    · have bound := length_encode_le (message.requestingReply request.wantsReply).frame
      simp only [cost, headerLength, Payload.limit, made, Caller.Stage.left_writing,
        List.length_append, List.length_cons, List.length_nil] at bound ⊢
      omega

theorem Sound.give (sound : Sound answer peer number requests caller server link)
    {message : Message Handle} {target : Handle} {portion rest : List UInt8} {pipe : Pipe}
    (writing : caller.stage = .writing message target (portion ++ rest)) (some : portion ≠ [])
    (queue : pipe.queue = link.fromNear.queue ++ portion) (pipeSound : pipe.Sound) :
    Sound answer peer number requests (caller.written message target rest) server
        ⟨pipe, link.fromFar⟩ ∧
      cost (caller.written message target rest) server ⟨pipe, link.fromFar⟩ <
        cost caller server link := by
  obtain ⟨begun, taken, wishes, fulfilled, prepared⟩ := sound.wishes
  obtain ⟨finished, whole, results⟩ := sound.results
  obtain ⟨frames, pending, split, handed, standing⟩ := sound.seen
  have positive := List.length_pos_iff.2 some
  rw [writing] at prepared whole standing
  cases prepared
  unfold Caller.written
  cases rest with
  | cons byte rest =>
    refine ⟨⟨sound.handle, sound.source, sound.running, pipeSound, sound.down, ?_, ?_, ?_⟩, ?_⟩
    · exact ⟨begun, [], wishes, fulfilled, .writing _ _⟩
    · exact ⟨finished, whole, results⟩
    · refine ⟨frames, pending, split, handed, ?_⟩
      rw [queue]
      exact standing.give (List.cons_ne_nil _ _)
    · simp only [cost, writing, queue, Caller.Stage.left_writing, List.length_append,
        List.isEmpty_cons, Bool.false_eq_true, if_false]
      omega
  | nil =>
    rw [List.append_nil] at standing writing
    cases asks : message.frame.replyRequired with
    | true =>
      refine ⟨⟨sound.handle, sound.source, sound.running, pipeSound, sound.down, ?_, ?_, ?_⟩, ?_⟩
      · exact ⟨begun, [], wishes, fulfilled, .reading _ _⟩
      · exact ⟨finished, whole, results⟩
      · refine ⟨frames, pending, split, handed, ?_⟩
        rw [queue]
        exact standing.give_asking asks
      · simp only [cost, writing, queue, Caller.Stage.left_writing, Caller.Stage.left_reading,
          List.length_append, List.length_nil, List.isEmpty_nil, if_true]
        omega
    | false =>
      refine ⟨⟨sound.handle, sound.source, sound.running, pipeSound, sound.down, ?_, ?_, ?_⟩, ?_⟩
      · exact ⟨begun, [], wishes, fulfilled, .ready⟩
      · refine ⟨finished ++ [message.frame], ?_, ?_⟩
        · show caller.sent = _
          rw [whole]
          simp [Caller.finish]
        · show caller.results ++ _ = _
          rw [results, List.map_append, List.map_singleton, expected, asks]
          rfl
      · refine ⟨frames, pending, split, handed, ?_⟩
        rw [queue]
        exact standing.give_quiet asks
      · simp only [cost, writing, queue, Caller.finish, Caller.Stage.left_writing,
          Caller.Stage.left_ready, List.length_append, List.length_nil, List.isEmpty_nil, if_true,
          Bool.false_eq_true, if_false]
        omega

theorem Sound.collect (sound : Sound answer peer number requests caller server link)
    {message : Message Handle} {source : Handle} {held bytes : List UInt8} {count : Nat}
    {pipe : Pipe} (reading : caller.stage = .reading message source held)
    (wanting : Channel.readingOf held = .wanting count) (some : bytes ≠ [])
    (few : bytes.length ≤ count) (queue : link.fromFar.queue = bytes ++ pipe.queue)
    (pipeSound : pipe.Sound) :
    Sound answer peer number requests (caller.read message source (held ++ bytes)) server
        ⟨link.fromNear, pipe⟩ ∧
      cost (caller.read message source (held ++ bytes)) server ⟨link.fromNear, pipe⟩ <
        cost caller server link := by
  obtain ⟨begun, taken, wishes, fulfilled, prepared⟩ := sound.wishes
  obtain ⟨finished, whole, results⟩ := sound.results
  obtain ⟨frames, pending, split, handed, standing⟩ := sound.seen
  have positive := List.length_pos_iff.2 some
  rw [reading] at prepared whole standing
  rw [queue] at standing
  cases prepared
  obtain ⟨more, parts, asks, goesOn, ends⟩ := standing.collect some
  have short : held.length <
      (replyOf answer (received ⟨number, .far, unnamed⟩ message.frame)).encode.length := by
    rw [← parts, List.length_append, List.length_append]
    omega
  have all : held ++ (bytes ++ more) =
      (replyOf answer (received ⟨number, .far, unnamed⟩ message.frame)).encode ++ [] := by
    rw [parts, List.append_nil]
  unfold Caller.read
  rcases Channel.readingOf_append all short wanting few with
    ⟨less, next, wants⟩ | ⟨-, none, isWhole⟩
  · rw [wants]
    have notAll : more ≠ [] := by
      rintro rfl
      rw [List.append_nil] at parts
      rw [parts] at less
      exact Nat.lt_irrefl _ less
    refine ⟨⟨sound.handle, sound.source, sound.running, sound.up, pipeSound, ?_, ?_, ?_⟩, ?_⟩
    · exact ⟨begun, [], wishes, fulfilled, .reading _ _⟩
    · exact ⟨finished, whole, results⟩
    · exact ⟨frames, pending, split, handed, goesOn notAll⟩
    · simp only [cost, reading, queue, Caller.Stage.left_reading, List.length_append]
      omega
  · rw [isWhole]
    refine ⟨⟨sound.handle, sound.source, sound.running, sound.up, pipeSound, ?_, ?_, ?_⟩, ?_⟩
    · exact ⟨begun, [], wishes, fulfilled, .ready⟩
    · refine ⟨finished ++ [message.frame], ?_, ?_⟩
      · show caller.sent = _
        rw [whole]
        simp [Caller.finish]
      · show caller.results ++ _ = _
        rw [results, List.map_append, List.map_singleton, expected_of_asking asks]
    · exact ⟨frames, pending, split, handed, ends none⟩
    · simp only [cost, reading, queue, Caller.finish, Caller.Stage.left_reading,
        Caller.Stage.left_ready, List.length_append]
      omega

theorem Sound.target_eq (sound : Sound answer peer number requests caller server link)
    {message : Message Handle} {target : Handle} {left : List UInt8}
    (writing : caller.stage = .writing message target left) : target = ⟨number, .near, peer⟩ := by
  obtain ⟨begun, taken, -, -, prepared⟩ := sound.wishes
  rw [writing] at prepared
  cases prepared
  exact sound.handle

theorem Sound.source_eq (sound : Sound answer peer number requests caller server link)
    {message : Message Handle} {source : Handle} {held : List UInt8}
    (reading : caller.stage = .reading message source held) : source = ⟨number, .near, peer⟩ := by
  obtain ⟨begun, taken, -, -, prepared⟩ := sound.wishes
  rw [reading] at prepared
  cases prepared
  exact sound.handle

/-- A step of a caller keeps what holds, and touches nothing but its own connection. -/
theorem Sound.caller_step (sound : Sound answer peer number requests caller server link)
    {f f' : Fabric} {most : Nat} {channel channel' : Channel} {caller' : Caller}
    (found : f[number]? = some link)
    (step : caller.step? most channel f = some (caller', channel', f')) :
    ∃ link', f' = f.set number link' ∧
      Sound answer peer number requests caller' server link' ∧
      cost caller' server link' < cost caller server link := by
  have same : f = f.set number link := by
    obtain ⟨inside, rfl⟩ := List.getElem?_eq_some_iff.1 found
    rw [List.set_getElem_self]
  unfold Caller.step? at step
  split at step
  · rename_i ready
    split at step
    · cases step
    · rename_i request todo next
      cases step
      exact ⟨link, same, sound.prepare channel ready next⟩
  · rename_i message wantsReply made
    cases step
    exact ⟨link, same, sound.begin found made⟩
  · rename_i message target left writing
    obtain ⟨⟨rest, pipe⟩, given, moved⟩ := Option.map_eq_some_iff.1 step
    cases moved
    cases sound.target_eq writing
    rw [Fabric.outgoing_near found] at given
    obtain ⟨portion, some, rfl, queue, pipeSound⟩ := Pipe.give?_spec sound.up given
    exact ⟨⟨pipe, link.fromFar⟩, Fabric.withOutgoing_near found pipe,
      sound.give writing some queue pipeSound⟩
  · rename_i message source held reading
    obtain ⟨⟨further, fabric⟩, read, moved⟩ := Option.map_eq_some_iff.1 step
    obtain ⟨count, bytes, pipe, wanting, taken, rfl, rfl⟩ := Channel.readOn?_eq_some read
    cases moved
    cases sound.source_eq reading
    rw [Fabric.incoming_near found] at taken
    obtain ⟨some, few, queue, pipeSound⟩ := Pipe.take?_spec sound.down taken
    exact ⟨⟨link.fromNear, pipe⟩, Fabric.withIncoming_near found pipe,
      sound.collect reading wanting some (Nat.le_trans few (Nat.min_le_right _ _)) queue
        pipeSound⟩

/-! ## The steps of a session -/

variable {handler : Handler σ}

theorem dispatch_quiet (handler : Handler σ) (session : Session) (message : Message Handle)
    (shared : Shared σ) (quiet : message.frame.replyRequired = false) :
    ∃ state, session.dispatch handler message shared =
      (session.turnTo (.reading []), { shared with state }) := by
  unfold Session.dispatch
  rcases handler.take shared.state message with ⟨state, none | payload⟩
  · exact ⟨state, rfl⟩
  · have refused : Channel.replyTo message payload = .error .replyNotRequested := by
      simp [Channel.replyTo, quiet]
    simp only [refused, bind, Except.bind]
    exact ⟨_, rfl⟩

theorem dispatch_asking (answers : Answers handler answer) (session : Session)
    (message : Message Handle) {shared : Shared σ} (asks : message.frame.replyRequired = true)
    (addressed : message.destination = some session.source)
    (connected : shared.fabric.isConnected session.source = true) :
    ∃ state, session.dispatch handler message shared =
      (session.turnTo (.replying message (replyOf answer message)), { shared with state }) := by
  let reply : Message Handle := ⟨replyOf answer message, some session.source⟩
  have takes := answers.takes shared.state message asks
  have out : Channel.outbound shared.fabric reply false = .ok (session.source, reply) :=
    Channel.outbound_eq rfl connected false
  have went : Channel.replyTo message (answer message).bytes >>=
      (Channel.outbound shared.fabric · false) = .ok (session.source, reply) := by
    rw [Channel.replyTo_eq asks addressed (answers.short message)]
    exact out
  unfold Session.dispatch
  revert takes
  rcases handler.take shared.state message with ⟨state, none | payload⟩
  · intro takes
    cases takes
  · intro takes
    cases takes
    simp only [went]
    exact ⟨state, rfl⟩

theorem Sound.hear (answers : Answers handler answer)
    (sound : Sound answer peer number requests caller server link) {held bytes : List UInt8}
    {count : Nat} {pipe : Pipe} (shared : Shared σ)
    (found : shared.fabric[number]? = .some ⟨pipe, link.fromFar⟩)
    (reading : server.session.stage = .reading held)
    (wanting : Channel.readingOf held = .wanting count) (some : bytes ≠ [])
    (few : bytes.length ≤ count) (queue : link.fromNear.queue = bytes ++ pipe.queue)
    (pipeSound : pipe.Sound) :
    (server.read handler (held ++ bytes) shared).2.fabric = shared.fabric ∧
      Sound answer peer number requests caller (server.read handler (held ++ bytes) shared).1
        ⟨pipe, link.fromFar⟩ ∧
      cost caller (server.read handler (held ++ bytes) shared).1 ⟨pipe, link.fromFar⟩ <
        cost caller server link := by
  obtain ⟨frames, pending, split, handed, standing⟩ := sound.seen
  have positive := List.length_pos_iff.2 some
  have behind := sound.length_seen_le
  have connected : shared.fabric.isConnected server.session.source = true := by
    rw [sound.source]
    exact Fabric.isConnected_of_live found .far pipeSound.live
  rw [reading, queue] at standing
  obtain ⟨nothing, heard⟩ := standing.hear some wanting few
  unfold Server.read
  rcases heard with ⟨next, wants, goesOn⟩ | ⟨frame, others, rfl, isWhole, ifQuiet, ifAsking⟩
  · rw [wants]
    refine ⟨rfl, ⟨sound.handle, sound.source, sound.running, pipeSound, sound.down, sound.wishes,
      sound.results, ?_⟩, ?_⟩
    · exact ⟨frames, pending, split, handed, goesOn⟩
    · simp only [cost, queue, List.length_append]
      omega
  · have further : caller.sent = (frames ++ [frame]) ++ others := by
      rw [split, List.append_assoc]
      rfl
    have also : server.seen ++ [received server.session.source frame] =
        (frames ++ [frame]).map (received ⟨number, .far, unnamed⟩) := by
      rw [handed, sound.source, List.map_append, List.map_singleton]
    have fewer : server.seen.length + 1 ≤ caller.sent.length := by
      rw [handed, split, List.length_map, List.length_append, List.length_cons]
      omega
    have bound := length_encode_le (replyOf answer (received server.session.source frame))
    rw [isWhole]
    cases asks : frame.replyRequired with
    | false =>
      obtain ⟨state, dispatched⟩ := dispatch_quiet handler server.session
        (received server.session.source frame) shared asks
      simp only [dispatched]
      refine ⟨trivial, ⟨sound.handle, sound.source, sound.running, pipeSound, sound.down,
        sound.wishes, sound.results, ?_⟩, ?_⟩
      · exact ⟨frames ++ [frame], others, further, also, ifQuiet asks⟩
      · simp only [cost, queue, headerLength, Payload.limit, Server.outgoing, Session.turnTo,
          List.length_append, List.length_cons, List.length_nil]
        omega
    | true =>
      obtain ⟨state, dispatched⟩ := dispatch_asking answers server.session
        (received server.session.source frame) asks rfl connected
      have standing := ifAsking asks
      rw [← sound.source] at standing
      simp only [dispatched]
      refine ⟨trivial, ⟨sound.handle, sound.source, sound.running, pipeSound, sound.down,
        sound.wishes, sound.results, ?_⟩, ?_⟩
      · refine ⟨frames ++ [frame], others, further, also, ?_⟩
        rw [← sound.source]
        exact standing
      · simp only [cost, queue, headerLength, Payload.limit, Server.outgoing, Session.turnTo,
          List.length_append, List.length_cons, List.length_nil] at bound ⊢
        omega

theorem Sound.utter (handler : Handler σ)
    (sound : Sound answer peer number requests caller server link) {request : Message Handle}
    {reply : Frame} {portion rest : List UInt8} {pipe : Pipe} (shared : Shared σ)
    (replying : server.session.stage = .replying request reply)
    (left : server.left = portion ++ rest) (some : portion ≠ [])
    (queue : pipe.queue = link.fromFar.queue ++ portion) (pipeSound : pipe.Sound) :
    (server.written handler request reply rest shared).2.fabric = shared.fabric ∧
      Sound answer peer number requests caller (server.written handler request reply rest shared).1
        ⟨link.fromNear, pipe⟩ ∧
      cost caller (server.written handler request reply rest shared).1 ⟨link.fromNear, pipe⟩ <
        cost caller server link := by
  obtain ⟨frames, pending, split, handed, standing⟩ := sound.seen
  have positive := List.length_pos_iff.2 some
  rw [replying, left] at standing
  obtain ⟨goesOn, ends⟩ := standing.utter some
  unfold Server.written
  cases rest with
  | cons byte rest =>
    refine ⟨rfl, ⟨sound.handle, sound.source, sound.running, sound.up, pipeSound, sound.wishes,
      sound.results, ?_⟩, ?_⟩
    · refine ⟨frames, pending, split, handed, ?_⟩
      rw [queue]
      simp only [List.isEmpty_cons, Bool.false_eq_true, if_false, replying]
      exact goesOn (List.cons_ne_nil _ _)
    · simp only [cost, left, queue, List.length_append, List.isEmpty_cons, Bool.false_eq_true,
        if_false]
      omega
  | nil =>
    refine ⟨rfl, ⟨sound.handle, sound.source, sound.running, sound.up, pipeSound, sound.wishes,
      sound.results, ?_⟩, ?_⟩
    · refine ⟨frames, pending, split, handed, ?_⟩
      rw [queue]
      exact ends rfl
    · simp only [cost, left, queue, List.length_append, List.length_nil, List.isEmpty_nil, if_true]
      omega

/-- A step of a session keeps what holds, and touches nothing but its own connection. -/
theorem Sound.server_step (answers : Answers handler answer)
    (sound : Sound answer peer number requests caller server link) {most : Nat}
    {shared shared' : Shared σ} {server' : Server} (found : shared.fabric[number]? = some link)
    (step : server.step? handler most shared = some (server', shared')) :
    ∃ link', shared'.fabric = shared.fabric.set number link' ∧
      Sound answer peer number requests caller server' link' ∧
      cost caller server' link' < cost caller server link := by
  have inside : number < shared.fabric.length := (List.getElem?_eq_some_iff.1 found).1
  unfold Server.step? at step
  rw [sound.running, sound.source] at step
  simp only [Option.isSome_none, Bool.false_eq_true, if_false] at step
  split at step
  · rename_i held reading
    obtain ⟨⟨further, fabric⟩, read, moved⟩ := Option.map_eq_some_iff.1 step
    obtain ⟨count, bytes, pipe, wanting, taken, rfl, rfl⟩ := Channel.readOn?_eq_some read
    rw [Fabric.incoming_far found] at taken
    obtain ⟨some, few, queue, pipeSound⟩ := Pipe.take?_spec sound.up taken
    simp only [Fabric.withIncoming_far found] at moved
    have heard := sound.hear answers
      { shared with fabric := shared.fabric.set number ⟨pipe, link.fromFar⟩ }
      (by simp [inside]) reading wanting some (Nat.le_trans few (Nat.min_le_right _ _)) queue
      pipeSound
    rw [moved] at heard
    exact ⟨⟨pipe, link.fromFar⟩, heard⟩
  · rename_i request reply replying
    obtain ⟨⟨rest, pipe⟩, given, moved⟩ := Option.map_eq_some_iff.1 step
    rw [Fabric.outgoing_far found] at given
    obtain ⟨portion, some, left, queue, pipeSound⟩ := Pipe.give?_spec sound.down given
    simp only [Fabric.withOutgoing_far found] at moved
    have uttered := sound.utter handler
      { shared with fabric := shared.fabric.set number ⟨link.fromNear, pipe⟩ } replying left some
      queue pipeSound
    rw [moved] at uttered
    exact ⟨⟨link.fromNear, pipe⟩, uttered⟩

end Telematics.Conversation
