/-
# Telematics.Proofs.Session.Standing -- where a session stands in its stream

As long as a session has not ended, the messages that the bytes of its peer begin
with are those that have reached the handler and those ahead of it, in what it holds,
what is queued and what is still to be written (`Running`).  No move of the others
changes that (`Running.write`, `Running.close`, `Running.others`).

A step of the session hands over the next message if all its frame has come
(`Running.receive`).  If it has not, the session takes what there is and waits as
long as more may come; what is no frame, or will never be a whole one, ends it, and
then nothing is ahead any more (`Running.miss`).  A reply makes no difference,
whatever becomes of it (`Running.conclude`).  Only a session that has waited too
long within a frame ends with messages ahead (`Running.pass`).

When nothing more can come, every step leaves less to be done (`Running.serve?`).
-/
import Telematics.Proofs.Channel.Resume
import Telematics.Proofs.Session.Feed

namespace Telematics.Feed

set_option autoImplicit false

open Link Wire

variable {σ : Type} {source : Handle} {bytes : List UInt8} {frame : Frame} {s s' : Feed σ}

/-! ## The messages that some bytes hold -/

/-- The messages that the bytes from a connection begin with. -/
def messages (source : Handle) (bytes : List UInt8) : List (Message Handle) :=
  (Frame.leading bytes).map fun frame => ⟨frame, some source⟩

theorem messages_of_error {e : FrameError} (refused : Frame.decode bytes = .error e) :
    messages source bytes = [] := by
  rw [messages, Frame.leading_of_error refused]
  rfl

theorem messages_append (decoded : Frame.decode bytes = .ok frame) (others : List UInt8) :
    messages source (bytes ++ others) =
      ⟨frame, some source⟩ ::
        messages source (bytes.drop (headerLength + frame.payload.length) ++ others) := by
  rw [messages, Frame.leading_append decoded]
  rfl

/-! ## Where a run can be -/

/-- The bytes of which nothing has reached the handler. -/
def ahead (s : Feed σ) : List UInt8 :=
  s.session.stage.held ++ s.incoming.queue ++ s.left

/-- How much is to be done about what has been written. -/
def effort (s : Feed σ) : Nat :=
  s.session.stage.held.length + s.incoming.queue.length + s.session.stage.replies

/-- The handler has been handed the first of the messages, and the others are ahead. -/
structure Running (source : Handle) (bytes : List UInt8) (s : Feed σ) : Prop where
  going : s.session.worker.ended = none
  serves : s.session.source = source
  inside : source.link < s.shared.fabric.length
  /-- What is held is not a whole frame. -/
  short : s.session.stage.held.length < Channel.reach s.session.stage.held
  /-- The peer closes the connection when it has written everything. -/
  pipe : s.incoming.Sound ∨ s.incoming.ending ≠ .live ∧ s.left = []
  split : messages source bytes = s.seen ++ messages source s.ahead
  few : s.effort + s.left.length ≤ bytes.length

/-- The session has ended. -/
structure Over (s : Feed σ) : Prop where
  ended : s.session.worker.ended = some .returned
  idle : s.session.stage = .reading []

/-- Nothing can come any more that has not come. -/
def Halted (s : Feed σ) : Prop := s.incoming.ending ≠ .live

theorem short_nil : ([] : List UInt8).length < Channel.reach [] := by decide

theorem running_start {f : Fabric} (number : Nat) (state : σ) (inside : source.link < f.length)
    (unused : f.incoming source = .new) (bytes : List UInt8) :
    Running source bytes (start number source state f bytes) where
  going := rfl
  serves := rfl
  inside := inside
  short := short_nil
  pipe := by
    refine .inl ?_
    show (f.incoming source).Sound
    rw [unused]
    exact Pipe.sound_new
  split := by
    show _ = messages source ([] ++ (f.incoming source).queue ++ bytes)
    rw [unused]
    rfl
  few := by
    show 0 + (f.incoming source).queue.length + 0 + bytes.length ≤ bytes.length
    rw [unused]
    simp [Pipe.new]

theorem Running.seen_prefix (running : s.Running source bytes) : s.seen <+: messages source bytes :=
  running.split ▸ List.prefix_append _ _

/-! ## What the others do -/

/-- Nothing has changed for a session to which as many bytes lead as before. -/
theorem Running.congr (running : s.Running source bytes)
    (worker : s'.session.worker = s.session.worker) (serves : s'.session.source = s.session.source)
    (stage : s'.session.stage = s.session.stage) (seen : s'.seen = s.seen)
    (inside : source.link < s'.shared.fabric.length)
    (pipe : s'.incoming.Sound ∨ s'.incoming.ending ≠ .live ∧ s'.left = [])
    (same : s'.incoming.queue ++ s'.left = s.incoming.queue ++ s.left) :
    s'.Running source bytes where
  going := by rw [worker, running.going]
  serves := by rw [serves, running.serves]
  inside := inside
  short := by
    rw [stage]
    exact running.short
  pipe := pipe
  split := by
    rw [seen, ahead, stage, List.append_assoc, same, ← List.append_assoc]
    exact running.split
  few := by
    have few := running.few
    have length := congrArg List.length same
    rw [List.length_append, List.length_append] at length
    unfold effort at few ⊢
    rw [stage]
    omega

theorem Running.write (running : s.Running source bytes) (most : Nat) (begun : Bool) :
    (s.write most begun).Running source bytes ∧ (s.Halted → s.write most begun = s) := by
  unfold Feed.write
  cases given : s.incoming.give? most begun s.left with
  | none => exact ⟨running, fun _ => rfl⟩
  | some given' =>
    obtain ⟨left, pipe⟩ := given'
    rcases running.pipe with sound | ⟨halted, -⟩
    case inr => cases given.symm.trans (Pipe.give?_of_halted halted most begun s.left)
    obtain ⟨portion, -, split, queue, stillSound⟩ := Pipe.give?_spec sound given
    have inside : s.session.source.link < s.shared.fabric.length := by
      rw [running.serves]
      exact running.inside
    have incoming := Fabric.incoming_withIncoming pipe inside
    refine ⟨running.congr rfl rfl rfl rfl ?_ (.inl ?_) ?_, fun halted => absurd sound.live halted⟩
    · show source.link < (s.shared.fabric.withIncoming s.session.source pipe).length
      rw [Fabric.length_withIncoming]
      exact running.inside
    · show ((s.shared.fabric.withIncoming s.session.source pipe).incoming s.session.source).Sound
      rw [incoming]
      exact stillSound
    · show ((s.shared.fabric.withIncoming s.session.source pipe).incoming
        s.session.source).queue ++ left = _
      rw [incoming, queue, split, List.append_assoc]

theorem Running.close (running : s.Running source bytes) (how : Farewell) :
    (s.close how).Running source bytes ∧ (s.Halted → (s.close how).Halted) ∧
      (s.left = [] → (s.close how).Halted) ∧ (s.close how).effort = s.effort := by
  unfold Feed.close
  split
  case isFalse more => exact ⟨running, id, fun none => absurd none more, rfl⟩
  rename_i none
  have inside : s.session.source.link < s.shared.fabric.length := by
    rw [running.serves]
    exact running.inside
  obtain ⟨queue, ending⟩ := incoming_bid how inside
  have same : (s.withFabric (how.bid s.shared.fabric s.session.source)).incoming.queue =
      s.incoming.queue := queue
  refine ⟨running.congr rfl rfl rfl rfl ?_ (.inr ⟨ending, none⟩) ?_, fun _ => ending,
    fun _ => ending, ?_⟩
  · show source.link < (how.bid s.shared.fabric s.session.source).length
    rw [length_bid]
    exact running.inside
  · rw [same]
    rfl
  · rw [effort, same]
    rfl

theorem Running.others (running : s.Running source bytes) (state : σ) (fabric : Fabric) :
    (s.others state fabric).Running source bytes ∧
      (s.others state fabric).incoming = s.incoming ∧
      (s.others state fabric).session = s.session := by
  unfold Feed.others
  split
  case isFalse => exact ⟨running, rfl, rfl⟩
  rename_i kept
  obtain ⟨inside, same⟩ := kept
  have incoming : ({ s with shared := { s.shared with state := (state, s.seen), fabric } } :
      Feed σ).incoming = s.incoming := same
  rw [running.serves] at inside
  refine ⟨running.congr rfl rfl rfl rfl inside ?_ ?_, incoming, rfl⟩
  · rw [incoming]
    exact running.pipe
  · rw [incoming]

/-! ## What the session does -/

section

variable (settings : Channel.Settings) (handler : Handler σ)

/-- What becomes of a reply makes no difference to what has been and will be handed over. -/
theorem Running.conclude (running : s.Running source bytes) {request : Message Handle}
    {reply : Frame} (replying : s.session.stage = .replying request reply)
    (result : Except LinkError Nat) {fabric : Fabric} (inside : source.link < fabric.length)
    (same : fabric.incoming source = s.incoming) :
    let reached := s.session.conclude handler.recording request result { s.shared with fabric }
    let s' : Feed σ := { s with session := reached.1, shared := reached.2 }
    s'.Running source bytes ∧ s'.incoming = s.incoming ∧ s'.effort < s.effort := by
  intro reached s'
  have incoming : s'.incoming = s.incoming := by
    show fabric.incoming s.session.source = _
    rw [running.serves, same]
  have effort : s'.effort + 1 = s.effort := by
    unfold Feed.effort
    rw [incoming, replying]
    rfl
  refine ⟨⟨running.going, running.serves, inside, short_nil, ?_, ?_, ?_⟩, incoming, by omega⟩
  · rw [incoming]
    exact running.pipe
  · have split := running.split
    rw [ahead, replying] at split
    rw [ahead, incoming]
    exact split
  · have few := running.few
    show s'.effort + s.left.length ≤ _
    omega

theorem Running.send (running : s.Running source bytes) {session : Session}
    {shared : Shared (σ × List (Message Handle))}
    (sent : s.session.send? settings handler.recording s.shared = some (session, shared)) :
    let s' : Feed σ := { s with session, shared }
    s'.Running source bytes ∧ s'.incoming = s.incoming ∧ s'.effort < s.effort := by
  unfold Session.send? at sent
  split at sent
  · cases sent
  rename_i request reply replying
  have into : s.session.source.link < s.shared.fabric.length := by
    rw [running.serves]
    exact running.inside
  have same : (s.shared.fabric.write s.session.source settings.transferTimeout
      reply.encode).2.incoming s.session.source = s.incoming := Fabric.incoming_write into _ _
  have inside : source.link < (s.shared.fabric.write s.session.source settings.transferTimeout
      reply.encode).2.length := by
    rw [Fabric.length_write]
    exact running.inside
  rw [running.serves] at sent same inside
  generalize s.shared.fabric.write source settings.transferTimeout reply.encode = written
    at sent same inside
  split at sent
  · cases sent
  · cases sent
    exact running.conclude handler replying _ inside same

/-- A session that cannot send any more of its reply cannot do anything. -/
theorem serve?_of_replying {request : Message Handle} {reply : Frame}
    (replying : s.session.stage = .replying request reply) :
    s.serve? settings handler =
      (s.session.send? settings handler.recording s.shared).map fun (session, shared) =>
        { s with session, shared } := by
  rw [serve?, Session.receive?_eq_none_of_replying _ _ _ replying, Option.or_none]

theorem serve?_of_reading {held : List UInt8} (reading : s.session.stage = .reading held) :
    s.serve? settings handler =
      (s.session.receive? settings handler.recording s.shared).map fun (session, shared) =>
        { s with session, shared } := by
  have none : s.session.send? settings handler.recording s.shared = none := by
    simp only [Session.send?, reading]
  rw [serve?, none, Option.none_or]

/-- A session that reads and has something to read goes on. -/
theorem Running.busy (running : s.Running source bytes) {held : List UInt8}
    (some : held ++ s.incoming.queue ≠ [] ∨ s.Halted) :
    s.session.isIdle held s.shared.fabric = false := by
  apply Session.isIdle_eq_false running.going
  by_cases empty : held = []
  case neg => exact .inl empty
  refine .inr ?_
  show s.incoming.isReadable = true
  rcases some with some | halted
  · rw [empty] at some
    exact Pipe.isReadable_of_queue some
  · simp [Pipe.isReadable, show s.incoming.ending ≠ .live from halted]

theorem Running.short_of_reading (running : s.Running source bytes) {held : List UInt8}
    (reading : s.session.stage = .reading held) : held.length < Channel.reach held := by
  have short := running.short
  rwa [reading] at short

/-- When a frame has been handed over, one of the messages ahead has become one that was seen. -/
theorem Running.next (running : s.Running source bytes) {held : List UInt8} {stage : Session.Stage}
    (reading : s.session.stage = .reading held)
    (decoded : Frame.decode (held ++ s.incoming.queue) = .ok frame)
    (turned : s'.session = s.session.turnTo stage) (idle : stage.held = [])
    (replies : stage.replies ≤ 1) (seen : s'.seen = s.seen ++ [⟨frame, some source⟩])
    (fabric : s'.shared.fabric = Channel.behind s.shared.fabric source
      (headerLength + frame.payload.length - held.length))
    (left : s'.left = s.left) :
    s'.Running source bytes ∧ s'.incoming.ending = s.incoming.ending ∧ s'.effort < s.effort := by
  have header : headerLength = 24 := rfl
  have enough := Frame.le_length_of_decode decoded
  rw [List.length_append] at enough
  have more := Channel.lt_reach_append (running.short_of_reading reading) s.incoming.queue
  rw [Channel.reach_of_decode decoded] at more
  have stage' : s'.session.stage = stage := by rw [turned, Session.turnTo]
  have serves : s'.session.source = source := by
    rw [turned]
    exact running.serves
  generalize taken : headerLength + frame.payload.length - held.length = n at fabric
  have incoming : s'.incoming = s.incoming.advance n := by
    rw [Feed.incoming, fabric, serves, Channel.incoming_behind running.inside, ← running.serves]
    rfl
  have queue : s'.incoming.queue = s.incoming.queue.drop n := by rw [incoming, Pipe.queue_advance]
  have ending : s'.incoming.ending = s.incoming.ending := by rw [incoming, Pipe.ending_advance]
  have effort : s'.effort < s.effort := by
    rw [Feed.effort, Feed.effort, stage', idle, queue, reading, List.length_drop, List.length_nil]
    show _ < held.length + s.incoming.queue.length + 0
    omega
  refine ⟨⟨?_, serves, ?_, ?_, ?_, ?_, ?_⟩, ending, effort⟩
  · rw [turned]
    exact running.going
  · rw [fabric, Channel.length_behind]
    exact running.inside
  · rw [stage', idle]
    exact short_nil
  · rw [ending, left, incoming]
    exact running.pipe.imp_left fun sound => sound.advance n
  · have behind : (held ++ s.incoming.queue).drop (headerLength + frame.payload.length) =
        s'.incoming.queue := by
      rw [List.drop_append, List.drop_of_length_le (Nat.le_of_lt more), taken, queue,
        List.nil_append]
    have split := running.split
    rw [ahead, reading] at split
    rw [seen, ahead, stage', idle, left, List.append_assoc, List.nil_append, ← behind]
    exact split.trans (congrArg _ (messages_append decoded s.left))
  · have few := running.few
    rw [left]
    omega

/-- A frame that is there as a whole is handed over. -/
theorem Running.receive (running : s.Running source bytes) {held : List UInt8}
    (reading : s.session.stage = .reading held)
    (decoded : Frame.decode (held ++ s.incoming.queue) = .ok frame) :
    ∃ s', s.serve? settings handler = some s' ∧ s'.left = s.left ∧ s'.Running source bytes ∧
      s'.incoming.ending = s.incoming.ending ∧ s'.effort < s.effort := by
  obtain rfl := running.serves
  have header : headerLength = 24 := rfl
  have enough := Frame.le_length_of_decode decoded
  have full : held ++ s.incoming.queue ≠ [] := List.ne_nil_of_length_pos (by omega)
  have received := Channel.receive_putBack_of_decode settings running.inside
    (running.short_of_reading reading) decoded
  have stepped := Session.receive?_of_received settings handler.recording reading
    (running.busy (.inl full)) received
  obtain ⟨stage, turned, idle, replies, kept, fabric⟩ :=
    Session.dispatch_recording handler s.session ⟨frame, some s.session.source⟩ { s.shared with
      fabric := Channel.behind s.shared.fabric s.session.source
        (headerLength + frame.payload.length - held.length) }
  rw [serve?_of_reading settings handler reading, stepped]
  exact ⟨_, rfl, rfl, running.next reading decoded turned idle replies kept fabric rfl⟩

/-- A session that has met something that is no frame ends, and has handed over everything. -/
theorem Running.finish (running : s.Running source bytes) {reason : ChannelError} {fabric : Fabric}
    (none : ∃ e, Frame.decode s.ahead = .error e) :
    let reached := s.session.finish (some reason) { s.shared with fabric }
    let s' : Feed σ := { s with session := reached.1, shared := reached.2 }
    s'.Over ∧ s'.seen = messages source bytes := by
  obtain ⟨e, refused⟩ := none
  refine ⟨⟨rfl, rfl⟩, ?_⟩
  rw [running.split, messages_of_error refused, List.append_nil]
  rfl

/-- A session that has taken all there is of a frame waits for the rest. -/
theorem Running.hold (running : s.Running source bytes) {held : List UInt8}
    (reading : s.session.stage = .reading held) (sound : s.incoming.Sound)
    (wants : (held ++ s.incoming.queue).length < Channel.reach (held ++ s.incoming.queue))
    (turned : s'.session = s.session.turnTo (.reading (held ++ s.incoming.queue)))
    (seen : s'.seen = s.seen)
    (fabric : s'.shared.fabric =
      Channel.behind s.shared.fabric source s.incoming.queue.length)
    (left : s'.left = s.left) :
    s'.Running source bytes ∧ s'.incoming.ending = s.incoming.ending := by
  have stage : s'.session.stage = .reading (held ++ s.incoming.queue) := by
    rw [turned, Session.turnTo]
  have serves : s'.session.source = source := by
    rw [turned]
    exact running.serves
  have incoming : s'.incoming = s.incoming.advance s.incoming.queue.length := by
    rw [Feed.incoming, fabric, serves, Channel.incoming_behind running.inside, ← running.serves]
    rfl
  have queue : s'.incoming.queue = [] := by
    rw [incoming, Pipe.queue_advance, List.drop_length]
  have effort : s'.effort = s.effort := by
    rw [Feed.effort, Feed.effort, stage, queue, reading]
    simp [Session.Stage.held, Session.Stage.replies]
  refine ⟨⟨?_, serves, ?_, ?_, ?_, ?_, ?_⟩, ?_⟩
  · rw [turned]
    exact running.going
  · rw [fabric, Channel.length_behind]
    exact running.inside
  · rw [stage]
    exact wants
  · rw [incoming]
    exact .inl (sound.advance _)
  · have split := running.split
    rw [ahead, reading] at split
    rw [seen, ahead, stage, queue, left, split]
    simp [Session.Stage.held]
  · rw [effort, left]
    exact running.few
  · rw [incoming, Pipe.ending_advance]

/-- What is not there as a whole is waited for while more may come, and otherwise ends the session,
which has handed over everything then. -/
theorem Running.miss (running : s.Running source bytes) {held : List UInt8}
    (reading : s.session.stage = .reading held)
    (none : ∀ frame, Frame.decode (held ++ s.incoming.queue) ≠ .ok frame) :
    (s.serve? settings handler = .none ∧ ¬ s.Halted) ∨
    ∃ s', s.serve? settings handler = some s' ∧
      (s'.Over ∧ s'.seen = messages source bytes ∨
        ¬ s.Halted ∧ s'.left = s.left ∧ s'.Running source bytes ∧
          s'.incoming.ending = s.incoming.ending) := by
  obtain rfl := running.serves
  have short := running.short_of_reading reading
  have ahead : s.ahead = held ++ s.incoming.queue ++ s.left := by rw [Feed.ahead, reading]; rfl
  rw [serve?_of_reading settings handler reading]
  rcases running.pipe with sound | ⟨halted, left⟩
  case inr =>
    obtain ⟨e, fabric, received, other⟩ :=
      Channel.receive_putBack_of_halted settings running.inside halted none
    rw [Session.receive?_of_error settings handler.recording reading (running.busy (.inr halted))
      received other]
    refine .inr ⟨_, rfl, .inl (running.finish ?_)⟩
    rw [ahead, left, List.append_nil]
    cases decoded : Frame.decode (held ++ s.incoming.queue) with
    | error e => exact ⟨e, rfl⟩
    | ok frame => exact absurd decoded (none frame)
  have live : ¬ s.Halted := fun halted => halted sound.live
  by_cases full : held ++ s.incoming.queue = []
  · obtain ⟨rfl, empty⟩ := List.append_eq_nil_iff.1 full
    have quiet : s.incoming.isReadable = false := by simp [Pipe.isReadable, empty, sound.live]
    rw [Session.receive?_of_quiet settings handler.recording reading quiet]
    exact .inl ⟨rfl, live⟩
  have busy := running.busy (.inl full)
  rcases Channel.receive_putBack_of_sound settings running.inside sound short full none with
    ⟨late, wants⟩ | ⟨e, fabric, received, never⟩
  · rw [Session.receive?_of_timeout settings handler.recording reading busy late]
    split
    · exact .inl ⟨rfl, live⟩
    · exact .inr ⟨_, rfl, .inr ⟨live, rfl, running.hold reading sound wants rfl rfl rfl rfl⟩⟩
  · rw [Session.receive?_of_error settings handler.recording reading busy received (by simp)]
    refine .inr ⟨_, rfl, .inl (running.finish ?_)⟩
    rw [ahead]
    exact never s.left

/-- What a step of the session comes to.  When nothing can come any more, it has something to do
unless its reply waits. -/
theorem Running.serve? (running : s.Running source bytes) :
    (s.serve? settings handler = none ∧ (s.Halted → s.session.stage.replies = 1)) ∨
    ∃ s', s.serve? settings handler = some s' ∧
      (s'.Over ∧ s'.seen = messages source bytes ∨
        s'.Running source bytes ∧ (s.Halted → s'.Halted ∧ s'.effort < s.effort)) := by
  cases stage : s.session.stage with
  | replying request reply =>
    rw [serve?_of_replying settings handler stage]
    cases sent : s.session.send? settings handler.recording s.shared with
    | none => exact .inl ⟨rfl, fun _ => rfl⟩
    | some reached =>
      obtain ⟨goesOn, incoming, effort⟩ := running.send settings handler sent
      refine .inr ⟨_, rfl, .inr ⟨goesOn, fun halted => ⟨?_, effort⟩⟩⟩
      rw [Halted, incoming]
      exact halted
  | reading held =>
    by_cases decoded : ∃ frame, Frame.decode (held ++ s.incoming.queue) = .ok frame
    · obtain ⟨frame, decoded⟩ := decoded
      obtain ⟨s', served, -, goesOn, ending, effort⟩ :=
        running.receive settings handler stage decoded
      refine .inr ⟨s', served, .inr ⟨goesOn, fun halted => ⟨?_, effort⟩⟩⟩
      rw [Halted, ending]
      exact halted
    · rcases running.miss settings handler stage
        (fun frame met => decoded ⟨frame, met⟩) with
        ⟨stuck, live⟩ | ⟨s', served, past | ⟨live, -, goesOn, -⟩⟩
      · exact .inl ⟨stuck, fun halted => absurd halted live⟩
      · exact .inr ⟨s', served, .inl past⟩
      · exact .inr ⟨s', served, .inr ⟨goesOn, fun halted => absurd halted live⟩⟩

/-- A session does not wait for its peer when nothing can come any more. -/
theorem Running.not_stalls (running : s.Running source bytes) (halted : s.Halted) (move : Move σ) :
    ¬ s.Stalls settings handler move := by
  cases move with
  | pass time =>
    rintro ⟨stuck, -, held, -⟩
    rcases running.serve? settings handler with ⟨-, waits⟩ | ⟨s', served, -⟩
    · have replies := waits halted
      cases stage : s.session.stage with
      | reading bytes =>
        rw [stage] at replies
        cases replies
      | replying request reply =>
        rw [stage] at held
        exact held rfl
    · rw [served] at stuck
      cases stuck
  | _ => exact id

/-- Waiting makes a session that replies give up its reply, and one that reads end if the peer
stalls. -/
theorem Running.pass (running : s.Running source bytes) (time : Nat) :
    ((s.pass settings handler time).Running source bytes ∧
      (s.Halted → (s.pass settings handler time).Halted ∧
        (s.pass settings handler time).effort ≤ s.effort ∧
        (s.serve? settings handler = none → settings.transferTimeout.nanoseconds ≤ time →
          (s.pass settings handler time).effort < s.effort))) ∨
    ((s.pass settings handler time).Over ∧ (s.pass settings handler time).seen = s.seen ∧
      s.Stalls settings handler (.pass time)) := by
  unfold Feed.pass
  split
  · rename_i busy
    refine .inl ⟨running, fun halted => ⟨halted, Nat.le_refl _, fun stuck => ?_⟩⟩
    rw [stuck] at busy
    cases busy
  rename_i stuck
  rw [Option.not_isSome_iff_eq_none] at stuck
  obtain rfl := running.serves
  by_cases waiting : s.session.isWaiting = true
  case neg =>
    rw [Bool.not_eq_true] at waiting
    rw [Session.pass_of_not_waiting settings handler.recording time waiting]
    have idle : s.session.stage = .reading [] := by
      simpa [Session.isWaiting, running.going] using waiting
    refine .inl ⟨running, fun halted => ?_⟩
    rcases running.serve? settings handler with
      ⟨-, waits⟩ | ⟨s', served, -⟩
    · have replies := waits halted
      rw [idle] at replies
      cases replies
    · cases stuck.symm.trans served
  rw [Session.pass_of_waiting settings handler.recording time waiting]
  by_cases late : settings.transferTimeout.nanoseconds ≤ s.session.waited.nanoseconds + time
  · rw [if_pos late]
    cases stage : s.session.stage with
    | replying request reply =>
      simp only [Session.giveUp, stage]
      obtain ⟨goesOn, incoming, effort⟩ := running.conclude handler stage
        (.error (.timeout .write settings.transferTimeout)) running.inside rfl
      refine .inl ⟨goesOn, fun halted => ⟨?_, Nat.le_of_lt effort, fun _ _ => effort⟩⟩
      rw [Halted, incoming]
      exact halted
    | reading held =>
      simp only [Session.giveUp, stage]
      have some : held ≠ [] := by
        rintro rfl
        simp [Session.isWaiting, stage] at waiting
      refine .inr ⟨⟨rfl, rfl⟩, rfl, by rw [stuck]; rfl, running.going, ?_, late⟩
      rw [stage]
      exact some
  · rw [if_neg late]
    refine .inl ⟨running.congr rfl rfl rfl rfl running.inside running.pipe rfl, fun halted =>
      ⟨halted, Nat.le_refl _, fun _ enough => ?_⟩⟩
    exact absurd (Nat.le_trans enough (Nat.le_add_left _ _)) late

end

end Telematics.Feed
