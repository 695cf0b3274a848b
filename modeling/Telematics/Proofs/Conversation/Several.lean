/-
# Telematics.Proofs.Conversation.Several -- several steps of one party

Writing a message (`Channel.post`) and reading the reply to it (`Channel.collect`)
are several steps of a caller between which nobody else takes one
(`Caller.steps?_post`, `Caller.steps?_collect`).  So are, for a session, turning to
what has arrived (`Session.receive?`) and turning to a reply (`Session.send?`), if
nothing of it has been written (`Server.steps?_receive`, `Server.steps?_send`).
-/
import Telematics.Proofs.Channel.Portions
import Telematics.Proofs.Conversation.Standing

namespace Telematics.Conversation

set_option autoImplicit false

open Link Wire

variable {σ : Type} {handler : Handler σ} {settings : Channel.Settings}

/-! ## Several steps of a caller -/

namespace Caller

def steps? : List Nat → Channel → Fabric → Caller → Option (Caller × Channel × Fabric)
  | [], channel, f, caller => some (caller, channel, f)
  | most :: more, channel, f, caller =>
    (caller.step? most channel f).bind fun (caller, channel, f) => caller.steps? more channel f

variable {caller : Caller} {channel : Channel} {f f' : Fabric} {message : Message Handle}
  {target source : Handle}

theorem written_of_ne_nil {left : List UInt8} (more : left ≠ []) :
    caller.written message target left = { caller with stage := .writing message target left } := by
  have some : left.isEmpty = false := by simpa using more
  rw [written, some]
  rfl

theorem read_of_wanting {held : List UInt8} {count : Nat}
    (wanting : Channel.readingOf held = .wanting count) :
    caller.read message source held = { caller with stage := .reading message source held } := by
  simp only [read, wanting]

theorem steps?_give {most : Nat} {more : List Nat} {left : List UInt8} {pipe : Pipe}
    (writing : caller.stage = .writing message target left)
    (inside : target.link < f.length) (sound : (f.outgoing target).Sound)
    (given : (f.outgoing target).giveAll? message.frame.encode.length (most :: more) left =
      some ([], pipe)) :
    caller.steps? (most :: more) channel f =
      some (caller.written message target [], channel, f.withOutgoing target pipe) := by
  induction more generalizing caller f left most with
  | nil =>
    obtain ⟨⟨rest, next⟩, first, last⟩ := Option.bind_eq_some_iff.1 given
    cases last
    simp only [steps?, step?, writing, first, Option.map_some, Option.bind_some]
  | cons again more ih =>
    obtain ⟨⟨rest, next⟩, first, others⟩ := Option.bind_eq_some_iff.1 given
    obtain ⟨portion, -, -, -, nextSound⟩ := Pipe.give?_spec sound first
    have left : rest ≠ [] := by
      rintro rfl
      simp only [Pipe.giveAll?, Pipe.give?_nil nextSound.live, Option.bind_none] at others
      cases others
    have outgoing : (f.withOutgoing target next).outgoing target = next :=
      Fabric.outgoing_withOutgoing _ inside
    let onward : Caller := { caller with stage := .writing message target rest }
    have stage : onward.stage = .writing message target rest := rfl
    have still : target.link < (f.withOutgoing target next).length := by
      simpa [Fabric.withOutgoing, Fabric.update] using inside
    have goesOn := ih stage still (by rwa [outgoing]) (by rwa [outgoing])
    rw [Fabric.withOutgoing_withOutgoing _ _ inside] at goesOn
    rw [steps?, step?, writing]
    simp only [first, Option.map_some, Option.bind_some, written_of_ne_nil left]
    exact goesOn

theorem steps?_read {most : Nat} {more : List Nat} {held held' : List UInt8}
    (reading : caller.stage = .reading message source held)
    (read : Channel.readAll? source (most :: more) f held = some (held', f')) :
    caller.steps? (most :: more) channel f =
      some (caller.read message source held', channel, f') := by
  induction more generalizing caller f held most with
  | nil =>
    obtain ⟨⟨further, fabric⟩, first, last⟩ := Option.bind_eq_some_iff.1 read
    cases last
    simp only [steps?, step?, reading, first, Option.map_some, Option.bind_some]
  | cons again more ih =>
    obtain ⟨⟨further, fabric⟩, first, others⟩ := Option.bind_eq_some_iff.1 read
    obtain ⟨⟨_, _⟩, second, -⟩ := Option.bind_eq_some_iff.1 others
    obtain ⟨count, -, -, wanting, -⟩ := Channel.readOn?_eq_some second
    let onward : Caller := { caller with stage := .reading message source further }
    have stage : onward.stage = .reading message source further := rfl
    have goesOn := ih stage others
    rw [steps?, step?, reading]
    simp only [first, Option.map_some, Option.bind_some, read_of_wanting wanting]
    exact goesOn

/-- **Writing a message** is done in steps. -/
theorem steps?_post (channel : Channel) {wantsReply : Bool} {message' : Message Handle}
    (made : caller.stage = .made message wantsReply) (inside : target.link < f.length)
    (sound : (f.outgoing target).Sound)
    (posted : Channel.post settings f message wantsReply = (.ok target, message', f')) :
    ∃ mosts, caller.steps? mosts channel f =
      some ({ caller with sent := caller.sent ++ [message'.frame] }.written message' target [],
        channel, f') := by
  unfold Channel.post at posted
  split at posted
  · cases posted
  rename_i destination ready out
  split at posted
  · cases posted
  rename_i count fabric wrote
  cases posted
  rw [Fabric.write_eq sound.live] at wrote
  rcases Pipe.write_cases settings.transferTimeout sound.live message'.frame.encode_ne_nil with
    ⟨pipe, late⟩ | ⟨most, more, pipe, given, inTime⟩
  · rw [late] at wrote
    cases wrote
  rw [inTime] at wrote
  cases wrote
  refine ⟨0 :: most :: more, ?_⟩
  rw [steps?, step?, made]
  simp only [begin, out, Option.bind_some]
  rw [steps?_give rfl inside sound given]
  rfl

/-- **Reading the reply** is done in steps, unless it fails to come. -/
theorem steps?_collect (channel : Channel) {result : Except ChannelError Payload}
    (reading : caller.stage = .reading message source []) (inside : source.link < f.length)
    (sound : (f.incoming source).Sound)
    (collected : Channel.collect settings f source message.frame = (result, f'))
    (came : ∀ e, result ≠ .error (.link e)) :
    ∃ mosts, caller.steps? mosts channel f =
      some (caller.finish (result.map some), channel, f') := by
  simp only [Channel.collect, Channel.readFrom_of_sound settings sound inside] at collected
  cases collected
  have short : ([] : List UInt8).length < Channel.reach [] := by decide
  by_cases queued : f.queued source = []
  · rw [queued, List.take_nil, Channel.readingOf_of_lt_reach short] at came
    exact absurd rfl (came _)
  obtain ⟨most, more, read⟩ := Channel.exists_readAll? sound inside short queued
  refine ⟨most :: more, ?_⟩
  rw [steps?_read reading read, Caller.read]
  simp only [List.nil_append, List.length_nil, Nat.sub_zero]
  revert came
  cases Channel.readingOf ((f.queued source).take (Channel.reach (f.queued source))) with
  | wanting count =>
    intro came
    exact absurd rfl (came _)
  | whole reply =>
    intro _
    rfl
  | refused e =>
    intro _
    rfl

end Caller

/-! ## Several steps of a session -/

namespace Server

def steps? (handler : Handler σ) : List Nat → Server → Shared σ → Option (Server × Shared σ)
  | [], server, shared => some (server, shared)
  | most :: more, server, shared =>
    (server.step? handler most shared).bind fun (server, shared) =>
      steps? handler more server shared

variable {server : Server} {shared shared' : Shared σ} {session' : Session}
  {request : Message Handle} {reply : Frame}

theorem read_of_wanting {held : List UInt8} {count : Nat}
    (wanting : Channel.readingOf held = .wanting count) :
    server.read handler held shared =
      ({ server with session := server.session.turnTo (.reading held) }, shared) := by
  simp only [read, wanting]

theorem written_of_ne_nil {left : List UInt8} (more : left ≠ []) :
    server.written handler request reply left shared = ({ server with left }, shared) := by
  have some : left.isEmpty = false := by simpa using more
  rw [written, some]
  rfl

/-- What a session held before makes no difference when it reads on. -/
theorem read_turnTo (held held' : List UInt8) :
    read handler { server with session := server.session.turnTo (.reading held) } held' shared =
      server.read handler held' shared := by
  unfold read
  cases Channel.readingOf held' <;> rfl

/-- Whether nothing has been written of what a session is about to write. -/
def Whole (server : Server) : Prop :=
  ∀ request reply, server.session.stage = .replying request reply → server.left = reply.encode

theorem whole_of_reading {held : List UInt8} (reading : server.session.stage = .reading held) :
    server.Whole := by
  intro request reply replying
  cases reading.symm.trans replying

theorem whole_read (held : List UInt8) : (server.read handler held shared).1.Whole := by
  unfold read
  cases Channel.readingOf held with
  | wanting count => exact whole_of_reading rfl
  | whole frame =>
    intro request reply replying
    show outgoing _ = _
    rw [replying]
    rfl
  | refused e => exact whole_of_reading rfl

theorem step?_of_read {most : Nat} {held held' : List UInt8} {f' : Fabric}
    (running : server.session.worker.ended = none)
    (reading : server.session.stage = .reading held)
    (read : Channel.readOn? most server.session.source shared.fabric held = some (held', f')) :
    server.step? handler most shared =
      some (server.read handler held' { shared with fabric := f' }) := by
  rw [step?, running, reading]
  simp only [read, Option.map_some]
  rfl

theorem step?_of_give {most : Nat} {rest : List UInt8} {pipe : Pipe}
    (running : server.session.worker.ended = none)
    (replying : server.session.stage = .replying request reply)
    (given : (shared.fabric.outgoing server.session.source).give? most
      (server.left.length ≠ reply.encode.length) server.left = some (rest, pipe)) :
    server.step? handler most shared = some (server.written handler request reply rest
      { shared with fabric := shared.fabric.withOutgoing server.session.source pipe }) := by
  rw [step?, running, replying]
  simp only [given, Option.map_some]
  rfl

theorem steps?_hear {most : Nat} {more : List Nat} {held held' : List UInt8} {f' : Fabric}
    (running : server.session.worker.ended = none)
    (reading : server.session.stage = .reading held)
    (read : Channel.readAll? server.session.source (most :: more) shared.fabric held =
      some (held', f')) :
    server.steps? handler (most :: more) shared =
      some (server.read handler held' { shared with fabric := f' }) := by
  induction more generalizing server shared held most with
  | nil =>
    obtain ⟨⟨further, fabric⟩, first, last⟩ := Option.bind_eq_some_iff.1 read
    cases last
    rw [steps?, step?_of_read running reading first]
    rfl
  | cons again more ih =>
    obtain ⟨⟨further, fabric⟩, first, others⟩ := Option.bind_eq_some_iff.1 read
    obtain ⟨⟨_, _⟩, second, -⟩ := Option.bind_eq_some_iff.1 others
    obtain ⟨count, -, -, wanting, -⟩ := Channel.readOn?_eq_some second
    let onward : Server := { server with session := server.session.turnTo (.reading further) }
    have stillRunning : onward.session.worker.ended = none := running
    have goesOn : onward.steps? handler (again :: more) { shared with fabric } = _ :=
      ih stillRunning rfl others
    rw [read_turnTo] at goesOn
    rw [steps?, step?_of_read running reading first, read_of_wanting wanting, Option.bind_some]
    exact goesOn

theorem steps?_utter {most : Nat} {more : List Nat} {pipe : Pipe}
    (running : server.session.worker.ended = none)
    (replying : server.session.stage = .replying request reply)
    (inside : server.session.source.link < shared.fabric.length)
    (sound : (shared.fabric.outgoing server.session.source).Sound)
    (given : (shared.fabric.outgoing server.session.source).giveAll? reply.encode.length
      (most :: more) server.left = some ([], pipe)) :
    server.steps? handler (most :: more) shared =
      some (server.written handler request reply []
        { shared with fabric := shared.fabric.withOutgoing server.session.source pipe }) := by
  induction more generalizing server shared most with
  | nil =>
    obtain ⟨⟨rest, next⟩, first, last⟩ := Option.bind_eq_some_iff.1 given
    cases last
    rw [steps?, step?_of_give running replying first]
    rfl
  | cons again more ih =>
    obtain ⟨⟨rest, next⟩, first, others⟩ := Option.bind_eq_some_iff.1 given
    obtain ⟨portion, -, -, -, nextSound⟩ := Pipe.give?_spec sound first
    have left : rest ≠ [] := by
      rintro rfl
      simp only [Pipe.giveAll?, Pipe.give?_nil nextSound.live, Option.bind_none] at others
      cases others
    have outgoing : (shared.fabric.withOutgoing server.session.source next).outgoing
        server.session.source = next :=
      Fabric.outgoing_withOutgoing _ inside
    let onward : Server := { server with left := rest }
    let after : Shared σ :=
      { shared with fabric := shared.fabric.withOutgoing server.session.source next }
    have stillReplying : onward.session.stage = .replying request reply := replying
    have still : onward.session.source.link < after.fabric.length := by
      simpa [after, Fabric.withOutgoing, Fabric.update] using inside
    have goesOn : onward.steps? handler (again :: more) after = _ :=
      ih running stillReplying still (by rwa [outgoing]) (by rwa [outgoing])
    have same := Fabric.withOutgoing_withOutgoing next pipe inside
    rw [steps?, step?_of_give running replying first, written_of_ne_nil left, Option.bind_some,
      ← same]
    exact goesOn

section Receive

variable {held : List UInt8} (reading : server.session.stage = .reading held)
  (short : held.length < Channel.reach held)
  (inside : server.session.source.link < shared.fabric.length)
  (sound : (shared.fabric.incoming server.session.source).Sound)

include reading short inside sound

theorem receive?_of_empty (empty : shared.fabric.queued server.session.source = []) :
    server.session.receive? settings handler shared = none := by
  unfold Session.receive?
  rw [reading]
  simp only
  by_cases none : held = []
  · have quiet : shared.fabric.isReadable server.session.source = false := by
      have queue : (shared.fabric.incoming server.session.source).queue = [] := empty
      rw [Fabric.isReadable, Pipe.isReadable, queue, sound.live]
      rfl
    rw [Session.isIdle, none, quiet, if_pos (by simp)]
  · have some : held ++ shared.fabric.queued server.session.source ≠ [] := by simp [none]
    have late := Channel.readFrom_putBack settings sound inside short some
    rw [empty, List.append_nil, List.take_of_length_le (Nat.le_of_lt short),
      Channel.readingOf_of_lt_reach short] at late
    split
    · rfl
    · rw [Channel.receive_eq late, empty]
      rfl

/-- A session that turns to what has arrived reads as far as a frame reaches. -/
theorem receive?_of_queued (running : server.session.worker.ended = none)
    (queued : shared.fabric.queued server.session.source ≠ []) :
    server.session.receive? settings handler shared =
      let bytes := held ++ shared.fabric.queued server.session.source
      let (server', shared) := server.read handler (bytes.take (Channel.reach bytes))
        { shared with
          fabric := Channel.behind shared.fabric server.session.source
            (Channel.reach bytes - held.length) }
      some (server'.session, shared) := by
  have some : held ++ shared.fabric.queued server.session.source ≠ [] := by simp [queued]
  have busy : server.session.isIdle held shared.fabric = false := by
    have ready := Pipe.isReadable_of_queue queued
    simp [Session.isIdle, running, Fabric.isReadable, ready]
  have came := Channel.readFrom_putBack settings sound inside short some
  have full : (shared.fabric.queued server.session.source).isEmpty = false := by simpa using queued
  unfold Session.receive?
  rw [reading]
  simp only [busy]
  rw [Channel.receive_eq came]
  generalize outcome : Channel.readingOf _ = reached at came ⊢
  cases reached with
  | wanting count =>
    have all := Channel.take_reach_of_wanting outcome
    rw [all] at outcome ⊢
    simp only [read_of_wanting outcome, Channel.Reading.result, full]
    rfl
  | whole frame =>
    simp only [Server.read, outcome, Channel.Reading.result]
    rfl
  | refused e =>
    simp only [Server.read, outcome, Channel.Reading.result]
    rfl

/-- **Turning to what has arrived** is done in steps. -/
theorem steps?_receive (running : server.session.worker.ended = none)
    (received : server.session.receive? settings handler shared = some (session', shared')) :
    ∃ mosts server', server.steps? handler mosts shared = some (server', shared') ∧
      server'.session = session' ∧ server'.Whole := by
  by_cases queued : shared.fabric.queued server.session.source = []
  · rw [receive?_of_empty reading short inside sound queued] at received
    cases received
  rw [receive?_of_queued reading short inside sound running queued] at received
  cases received
  obtain ⟨most, more, read⟩ := Channel.exists_readAll? sound inside short queued
  exact ⟨most :: more, _, steps?_hear running reading read, rfl, whole_read _⟩

end Receive

/-- **Turning to a reply** is done in steps. -/
theorem steps?_send (running : server.session.worker.ended = none)
    (replying : server.session.stage = .replying request reply)
    (whole : server.Whole)
    (inside : server.session.source.link < shared.fabric.length)
    (sound : (shared.fabric.outgoing server.session.source).Sound)
    (sent : server.session.send? settings handler shared = some (session', shared')) :
    ∃ mosts server', server.steps? handler mosts shared = some (server', shared') ∧
      server'.session = session' ∧ server'.Whole := by
  unfold Session.send? at sent
  rw [replying] at sent
  simp only [Fabric.write_eq sound.live] at sent
  rcases Pipe.write_cases settings.transferTimeout sound.live reply.encode_ne_nil with
    ⟨pipe, late⟩ | ⟨most, more, pipe, given, inTime⟩
  · rw [late] at sent
    cases sent
  rw [inTime] at sent
  cases sent
  have all : (shared.fabric.outgoing server.session.source).giveAll? reply.encode.length
      (most :: more) server.left = some ([], pipe) := by
    rw [whole request reply replying]
    exact given
  refine ⟨most :: more, _, steps?_utter running replying inside sound all, rfl, ?_⟩
  exact whole_of_reading (show _ = Session.Stage.reading [] from rfl)

end Server

end Telematics.Conversation
