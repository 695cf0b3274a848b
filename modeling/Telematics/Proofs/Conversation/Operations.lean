/-
# Telematics.Proofs.Conversation.Operations -- what is done at once is done step by step

What a caller or a session does at once is a run of a conversation in which only
one of them takes steps: writing a message (`run_post`), reading the reply
(`run_collect`), turning to what has arrived or to a reply, and catching up
(`run_catchUp`).

So what holds of all runs holds when callers and sessions proceed by these, in any
order: a caller reads the reply that is expected (`collect_expected`).
-/
import Telematics.Proofs.Conversation.EndToEnd
import Telematics.Proofs.Conversation.Several

namespace Telematics.Conversation

set_option autoImplicit false

open Link

variable {σ : Type} {handler : Handler σ} {settings : Channel.Settings}

/-! ## Runs of one party -/

variable {answer : Message Handle → Payload} {peer : String} {wishes : List (List Request)}
  {c : Conversation σ} {number : Nat} {caller : Caller} {server : Server}

theorem run?_append (choices others : List Choice) (c : Conversation σ) :
    c.run? handler (choices ++ others) =
      (c.run? handler choices).bind (·.run? handler others) := by
  induction choices generalizing c with
  | nil => rfl
  | cons choice choices ih =>
    rw [List.cons_append, run?, run?]
    cases c.step? handler choice with
    | none => rfl
    | some next => exact ih next

theorem run?_caller {caller' : Caller} {channel' : Channel} {f' : Fabric} {mosts : List Nat}
    (ofCaller : c.callers[number]? = some caller)
    (steps : caller.steps? mosts c.channel c.shared.fabric = some (caller', channel', f')) :
    c.run? handler (mosts.map (.caller number)) = some { c with
      channel := channel'
      shared := { c.shared with fabric := f' }
      callers := c.callers.set number caller' } := by
  have inside := (List.getElem?_eq_some_iff.1 ofCaller).1
  induction mosts generalizing c caller with
  | nil =>
    cases steps
    obtain ⟨_, rfl⟩ := List.getElem?_eq_some_iff.1 ofCaller
    rw [List.set_getElem_self]
    rfl
  | cons most mosts ih =>
    obtain ⟨⟨next, channel, f⟩, first, others⟩ := Option.bind_eq_some_iff.1 steps
    have step : c.step? handler (.caller number most) = some { c with
        channel
        shared := { c.shared with fabric := f }
        callers := c.callers.set number next } := by
      simp only [step?, ofCaller, first, Option.bind_some, Option.map_some]
    have goesOn := ih (c := { c with
        channel
        shared := { c.shared with fabric := f }
        callers := c.callers.set number next })
      (List.getElem?_set_self inside) others (by simpa using inside)
    rw [List.map_cons, run?, step, Option.bind_some, goesOn, List.set_set]

theorem run?_server {server' : Server} {shared' : Shared σ} {mosts : List Nat}
    (ofServer : c.servers[number]? = some server)
    (steps : server.steps? handler mosts c.shared = some (server', shared')) :
    c.run? handler (mosts.map (.server number)) = some { c with
      shared := shared'
      servers := c.servers.set number server' } := by
  have inside := (List.getElem?_eq_some_iff.1 ofServer).1
  induction mosts generalizing c server with
  | nil =>
    cases steps
    obtain ⟨_, rfl⟩ := List.getElem?_eq_some_iff.1 ofServer
    rw [List.set_getElem_self]
    rfl
  | cons most mosts ih =>
    obtain ⟨⟨next, shared⟩, first, others⟩ := Option.bind_eq_some_iff.1 steps
    have step : c.step? handler (.server number most) = some { c with
        shared
        servers := c.servers.set number next } := by
      simp only [step?, ofServer, first, Option.bind_some, Option.map_some]
    have goesOn := ih (c := { c with shared, servers := c.servers.set number next })
      (List.getElem?_set_self inside) others (by simpa using inside)
    rw [List.map_cons, run?, step, Option.bind_some, goesOn, List.set_set]

/-! ## Operations are runs -/

theorem destination_of_post {f f' : Fabric} {message message' : Message Handle} {target : Handle}
    {wantsReply : Bool}
    (posted : Channel.post settings f message wantsReply = (.ok target, message', f')) :
    message.destination = some target := by
  unfold Channel.post Channel.outbound at posted
  cases addressed : message.destination with
  | none => simp [addressed] at posted
  | some destination =>
    cases there : f.isConnected destination with
    | false => simp [addressed, there] at posted
    | true =>
      simp only [addressed, there, if_true] at posted
      split at posted
      · cases posted
      · cases posted
        rfl

/-- Whoever listens wants more than it holds. -/
theorem Sound.lt_reach {requests : List Request} {link : Connection}
    (sound : Sound answer peer number requests caller server link) {held : List UInt8}
    (reading : server.session.stage = .reading held) : held.length < Channel.reach held := by
  have least : ([] : List UInt8).length < Channel.reach [] := by decide
  obtain ⟨frames, pending, -, -, standing⟩ := sound.seen
  rw [reading] at standing
  generalize caller.stage = own at standing
  generalize server.left = left at standing
  generalize link.fromNear.queue = up at standing
  generalize link.fromFar.queue = down at standing
  cases standing with
  | answered => exact least
  | listening own before bytes part quiet unanswered =>
    generalize before ++ own.current = others at bytes part
    cases others with
    | nil =>
      cases (show held = [] from part)
      exact least
    | cons frame others =>
      obtain ⟨-, count, wanting, -⟩ := wanting_of_partial bytes part
      exact Channel.lt_reach_of_wanting wanting

namespace Good

variable (good : Good answer peer wishes c)

include good

/-- Writing a message is a run of the caller alone. -/
theorem run_post {message message' : Message Handle} {target : Handle} {wantsReply : Bool}
    {fabric : Fabric} (ofCaller : c.callers[number]? = some caller)
    (made : caller.stage = .made message wantsReply)
    (posted : Channel.post settings c.shared.fabric message wantsReply =
      (.ok target, message', fabric)) :
    ∃ mosts : List Nat, c.run? handler (mosts.map (.caller number)) = some { c with
      shared := { c.shared with fabric }
      callers := c.callers.set number
        ({ caller with sent := caller.sent ++ [message'.frame] }.written message' target []) } := by
  obtain ⟨requests, server, link, -, -, ofLink, sound⟩ := good.sound_of_caller ofCaller
  have own : target = ⟨number, .near, peer⟩ := by
    obtain ⟨begun, taken, -, -, prepared⟩ := sound.wishes
    rw [made] at prepared
    cases prepared with
    | made request addressed type payload =>
      have addressee := destination_of_post posted
      rw [addressed] at addressee
      cases addressee
      exact sound.handle
  subst own
  have inside := (List.getElem?_eq_some_iff.1 ofLink).1
  have pipe : (c.shared.fabric.outgoing ⟨number, .near, peer⟩).Sound := by
    rw [Fabric.outgoing_near ofLink]
    exact sound.up
  obtain ⟨mosts, steps⟩ := Caller.steps?_post c.channel made inside pipe posted
  exact ⟨mosts, run?_caller ofCaller steps⟩

/-- Reading the reply is a run of the caller alone, unless it fails to come. -/
theorem run_collect {message : Message Handle} {source : Handle} {fabric : Fabric}
    {result : Except ChannelError Payload} (ofCaller : c.callers[number]? = some caller)
    (reading : caller.stage = .reading message source [])
    (collected : Channel.collect settings c.shared.fabric source message.frame = (result, fabric))
    (came : ∀ e, result ≠ .error (.link e)) :
    ∃ mosts : List Nat, c.run? handler (mosts.map (.caller number)) = some { c with
      shared := { c.shared with fabric }
      callers := c.callers.set number (caller.finish (result.map some)) } := by
  obtain ⟨requests, server, link, -, -, ofLink, sound⟩ := good.sound_of_caller ofCaller
  cases sound.source_eq reading
  have inside := (List.getElem?_eq_some_iff.1 ofLink).1
  have pipe : (c.shared.fabric.incoming ⟨number, .near, peer⟩).Sound := by
    rw [Fabric.incoming_near ofLink]
    exact sound.down
  obtain ⟨mosts, steps⟩ :=
    Caller.steps?_collect c.channel reading inside pipe collected came
  exact ⟨mosts, run?_caller ofCaller steps⟩

/-- **The reply that is read is the one that is expected**, whatever else has been done before. -/
theorem collect_expected (answers : Answers handler answer) {message : Message Handle}
    {source : Handle} {fabric : Fabric} {result : Except ChannelError Payload}
    (ofCaller : c.callers[number]? = some caller)
    (reading : caller.stage = .reading message source [])
    (collected : Channel.collect settings c.shared.fabric source message.frame = (result, fabric))
    (came : ∀ e, result ≠ .error (.link e)) :
    result.map some = expected answer ⟨number, .far, unnamed⟩ message.frame := by
  obtain ⟨requests, server, link, -, -, -, before⟩ := good.sound_of_caller ofCaller
  obtain ⟨mosts, ran⟩ : ∃ mosts : List Nat, c.run? handler (mosts.map (.caller number)) = _ :=
    good.run_collect ofCaller reading collected came
  have present : (c.callers.set number (caller.finish (result.map some)))[number]? =
      some (caller.finish (result.map some)) :=
    List.getElem?_set_self (List.getElem?_eq_some_iff.1 ofCaller).1
  obtain ⟨_, _, _, -, -, -, after⟩ := (good.run answers ran).1.sound_of_caller present
  obtain ⟨finished, sent, results⟩ := before.results
  obtain ⟨finished', sent', results'⟩ := after.results
  rw [reading, Caller.Stage.current_reading] at sent
  have same : finished' = finished ++ [message.frame] := by
    rw [← sent]
    exact (sent'.trans (List.append_nil _)).symm
  have last : caller.results ++ [result.map some] =
      caller.results ++ [expected answer ⟨number, .far, unnamed⟩ message.frame] := by
    refine results'.trans ?_
    rw [same, List.map_append, ← results]
    rfl
  exact List.singleton_inj.1 (List.append_cancel_left last)

/-- Turning to what has arrived is a run of the session alone. -/
theorem run_receive {session' : Session} {shared' : Shared σ}
    (ofServer : c.servers[number]? = some server)
    (received : server.session.receive? settings handler c.shared = some (session', shared')) :
    ∃ (mosts : List Nat) (server' : Server), server'.session = session' ∧ server'.Whole ∧
      c.run? handler (mosts.map (.server number)) = some { c with
        shared := shared'
        servers := c.servers.set number server' } := by
  obtain ⟨requests, caller, link, -, -, ofLink, sound⟩ := good.sound_of_server ofServer
  have inside : server.session.source.link < c.shared.fabric.length := by
    rw [sound.source]
    exact (List.getElem?_eq_some_iff.1 ofLink).1
  have pipe : (c.shared.fabric.incoming server.session.source).Sound := by
    rw [sound.source, Fabric.incoming_far ofLink]
    exact sound.up
  cases stage : server.session.stage with
  | replying request reply =>
    rw [Session.receive?_eq_none_of_replying settings handler c.shared stage] at received
    cases received
  | reading held =>
    obtain ⟨mosts, server', steps, same, whole⟩ :=
      Server.steps?_receive stage (sound.lt_reach stage) inside pipe sound.running received
    exact ⟨mosts, server', same, whole, run?_server ofServer steps⟩

/-- Turning to a reply of which nothing has been written is a run of the session alone. -/
theorem run_send {session' : Session} {shared' : Shared σ}
    (ofServer : c.servers[number]? = some server) (whole : server.Whole)
    (sent : server.session.send? settings handler c.shared = some (session', shared')) :
    ∃ (mosts : List Nat) (server' : Server), server'.session = session' ∧ server'.Whole ∧
      c.run? handler (mosts.map (.server number)) = some { c with
        shared := shared'
        servers := c.servers.set number server' } := by
  obtain ⟨requests, caller, link, -, -, ofLink, sound⟩ := good.sound_of_server ofServer
  have inside : server.session.source.link < c.shared.fabric.length := by
    rw [sound.source]
    exact (List.getElem?_eq_some_iff.1 ofLink).1
  have pipe : (c.shared.fabric.outgoing server.session.source).Sound := by
    rw [sound.source, Fabric.outgoing_far ofLink]
    exact sound.down
  cases stage : server.session.stage with
  | reading held =>
    simp [Session.send?, stage] at sent
  | replying request reply =>
    obtain ⟨mosts, server', steps, same, whole⟩ :=
      Server.steps?_send sound.running stage whole inside pipe sent
    exact ⟨mosts, server', same, whole, run?_server ofServer steps⟩

/-- Going on for a number of turns is a run of the session alone. -/
theorem run_goOn (answers : Answers handler answer) (n : Nat)
    (ofServer : c.servers[number]? = some server) (whole : server.Whole) :
    ∃ (mosts : List Nat) (server' : Server),
      server'.session = (server.session.goOn settings handler n c.shared).1 ∧ server'.Whole ∧
      c.run? handler (mosts.map (.server number)) = some { c with
        shared := (server.session.goOn settings handler n c.shared).2
        servers := c.servers.set number server' } := by
  induction n generalizing c server with
  | zero => exact ⟨[], server, rfl, whole, run?_server ofServer rfl⟩
  | succ n ih =>
    rw [Session.goOn]
    cases turn : (server.session.send? settings handler c.shared).or
        (server.session.receive? settings handler c.shared) with
    | none => exact ⟨[], server, rfl, whole, run?_server ofServer rfl⟩
    | some next =>
      obtain ⟨session, shared⟩ := next
      obtain ⟨first, between, same, stillWhole, ran⟩ : ∃ (mosts : List Nat) (server' : Server),
          server'.session = session ∧ server'.Whole ∧
          c.run? handler (mosts.map (.server number)) = some { c with
            shared
            servers := c.servers.set number server' } := by
        rcases Option.or_eq_some_iff.1 turn with sent | ⟨-, received⟩
        · exact good.run_send ofServer whole sent
        · exact good.run_receive ofServer received
      subst same
      have present : (c.servers.set number between)[number]? = some between :=
        List.getElem?_set_self (List.getElem?_eq_some_iff.1 ofServer).1
      obtain ⟨later, server', same, finallyWhole, goesOn⟩ :=
        ih (good.run answers ran).1 present stillWhole
      refine ⟨first ++ later, server', same, finallyWhole, ?_⟩
      rw [List.map_append, run?_append, ran, Option.bind_some, goesOn, List.set_set]

/-- **Catching up** is a run of the session alone. -/
theorem run_catchUp (answers : Answers handler answer)
    (ofServer : c.servers[number]? = some server) (whole : server.Whole) :
    ∃ (mosts : List Nat) (server' : Server),
      server'.session = (server.session.catchUp settings handler c.shared).1 ∧ server'.Whole ∧
      c.run? handler (mosts.map (.server number)) = some { c with
        shared := (server.session.catchUp settings handler c.shared).2
        servers := c.servers.set number server' } :=
  good.run_goOn answers _ ofServer whole

end Good

end Telematics.Conversation
