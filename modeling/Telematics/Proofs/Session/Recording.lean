/-
# Telematics.Proofs.Session.Recording -- what a handler is handed

A handler may keep the messages that it is handed, next to the state that it has
anyway (`Handler.recording`).  A session takes the same steps with it as without
(`forgotten_receive?`, `forgotten_send?`, `forgotten_pass`, `forgotten_windUp`), and
from what is kept it can be seen what has reached the handler: a step that hands a
message on adds it, and no other step does anything to what is kept.
-/
import Telematics.Listener.Session

namespace Telematics

set_option autoImplicit false

open Link

variable {σ : Type}

/-- A handler that also keeps what it is handed, in order. -/
def Handler.recording (handler : Handler σ) : Handler (σ × List (Message Handle)) where
  take state message :=
    (((handler.take state.1 message).1, state.2 ++ [message]), (handler.take state.1 message).2)
  note state message result := (handler.note state.1 message result, state.2)

/-- What is shared, without what has been kept. -/
def Shared.forgotten (shared : Shared (σ × List (Message Handle))) : Shared σ :=
  ⟨shared.state.1, shared.fabric, shared.notices⟩

namespace Session

/-- What a step leads to, without what has been kept. -/
def forgotten (reached : Session × Shared (σ × List (Message Handle))) : Session × Shared σ :=
  (reached.1, reached.2.forgotten)

section Forgotten

variable (settings : Channel.Settings) (handler : Handler σ) (session : Session)
  (shared : Shared (σ × List (Message Handle)))

theorem forgotten_dispatch (message : Message Handle) :
    forgotten (session.dispatch handler.recording message shared) =
      session.dispatch handler message shared.forgotten := by
  simp only [dispatch, Handler.recording, Shared.forgotten]
  generalize handler.take shared.state.1 message = taken
  obtain ⟨next, _ | payload⟩ := taken
  · rfl
  dsimp only
  generalize Channel.replyTo message payload >>= (Channel.outbound shared.fabric · false) = reply
  cases reply <;> rfl

theorem forgotten_receive? :
    (session.receive? settings handler.recording shared).map forgotten =
      session.receive? settings handler shared.forgotten := by
  unfold receive?
  cases session.stage with
  | replying request reply => rfl
  | reading held =>
    have queue : shared.forgotten.fabric = shared.fabric := rfl
    dsimp only
    rw [queue]
    by_cases idle : session.isIdle held shared.fabric = true
    · rw [if_pos idle, if_pos idle]
      rfl
    rw [if_neg idle, if_neg idle]
    split
    · exact congrArg some (forgotten_dispatch ..)
    · split <;> rfl
    · rfl

theorem forgotten_send? :
    (session.send? settings handler.recording shared).map forgotten =
      session.send? settings handler shared.forgotten := by
  unfold send?
  cases session.stage with
  | reading held => rfl
  | replying request reply =>
    have queue : shared.forgotten.fabric = shared.fabric := rfl
    dsimp only
    rw [queue]
    split <;> rfl

theorem forgotten_pass (time : Nat) :
    forgotten (session.pass settings handler.recording time shared) =
      session.pass settings handler time shared.forgotten := by
  unfold pass
  split
  · rfl
  split
  · unfold giveUp
    split <;> rfl
  · rfl

theorem forgotten_windUp :
    forgotten (session.windUp settings handler.recording shared) =
      session.windUp settings handler shared.forgotten := by
  have gaveUp : forgotten (session.giveUp settings handler.recording shared) =
      session.giveUp settings handler shared.forgotten := by
    unfold giveUp
    split <;> rfl
  have obeyed : ∀ (session : Session) (shared : Shared (σ × List (Message Handle))),
      forgotten ((session.stop? shared).getD (session, shared)) =
        (session.stop? shared.forgotten).getD (session, shared.forgotten) := by
    intro session shared
    unfold stop?
    split <;> rfl
  by_cases waiting : session.isWaiting = true
  · simp only [windUp, waiting, if_true, ← gaveUp]
    exact obeyed _ _
  · simp only [windUp, waiting]
    exact obeyed session shared

theorem forgotten_forEach {act : Session → Shared (σ × List (Message Handle)) →
      Session × Shared (σ × List (Message Handle))}
    {act' : Session → Shared σ → Session × Shared σ}
    (each : ∀ session shared, forgotten (act session shared) = act' session shared.forgotten)
    (sessions : List Session) :
    (forEach act sessions shared).2.forgotten = (forEach act' sessions shared.forgotten).2 := by
  induction sessions generalizing shared with
  | nil => rfl
  | cons first rest ih =>
    show (forEach act rest (act first shared).2).2.forgotten = _
    have same : (act first shared).2.forgotten = (act' first shared.forgotten).2 :=
      congrArg Prod.snd (each first shared)
    rw [ih, same]
    rfl

end Forgotten

/-! ## What a step comes to -/

/-- What is held of a frame. -/
def Stage.held : Stage → List UInt8
  | .reading held => held
  | .replying _ _ => []

/-- The replies that are still to be made, one or none. -/
def Stage.replies : Stage → Nat
  | .reading _ => 0
  | .replying _ _ => 1

section

variable (settings : Channel.Settings) (handler : Handler σ) {session : Session}

/-- A message that is handed on is kept, and the session turns to the reply or the next frame. -/
theorem dispatch_recording (session : Session) (message : Message Handle)
    (shared : Shared (σ × List (Message Handle))) :
    ∃ stage, (session.dispatch handler.recording message shared).1 = session.turnTo stage ∧
      stage.held = [] ∧ stage.replies ≤ 1 ∧
      (session.dispatch handler.recording message shared).2.state.2 =
        shared.state.2 ++ [message] ∧
      (session.dispatch handler.recording message shared).2.fabric = shared.fabric := by
  simp only [dispatch, Handler.recording]
  generalize handler.take shared.state.1 message = taken
  obtain ⟨next, _ | payload⟩ := taken
  · exact ⟨.reading [], rfl, rfl, Nat.zero_le _, rfl, rfl⟩
  dsimp only
  generalize Channel.replyTo message payload >>= (Channel.outbound shared.fabric · false) = reply
  cases reply with
  | error e => exact ⟨.reading [], rfl, rfl, Nat.zero_le _, rfl, rfl⟩
  | ok reply => exact ⟨.replying message reply.2.frame, rfl, rfl, Nat.le_refl _, rfl, rfl⟩

variable {shared : Shared σ} {held : List UInt8} {fabric : Fabric}

theorem isIdle_eq_false (going : session.worker.ended = none)
    (busy : held ≠ [] ∨ shared.fabric.isReadable session.source = true) :
    session.isIdle held shared.fabric = false := by
  rw [isIdle, going]
  rcases busy with some | readable
  · simp [some]
  · simp [readable]

/-- A session that has nothing of a frame does not read before something comes. -/
theorem receive?_of_quiet (reading : session.stage = .reading [])
    (quiet : shared.fabric.isReadable session.source = false) :
    session.receive? settings handler shared = none := by
  have idle : session.isIdle [] shared.fabric = true := by simp [isIdle, quiet]
  simp only [receive?, reading, idle, if_true]

/-- A session waits for as long as it does, and gives up then. -/
theorem pass_of_waiting (time : Nat) (waiting : session.isWaiting = true) :
    session.pass settings handler time shared =
      if settings.transferTimeout.nanoseconds ≤ session.waited.nanoseconds + time then
        session.giveUp settings handler shared
      else ({ session with waited := ⟨session.waited.nanoseconds + time⟩ }, shared) := by
  have same : settings.transferTimeout.nanoseconds - session.waited.nanoseconds ≤ time ↔
      settings.transferTimeout.nanoseconds ≤ session.waited.nanoseconds + time := by omega
  simp only [pass, patience?, waiting, if_true, same]

theorem pass_of_not_waiting (time : Nat) (waiting : session.isWaiting = false) :
    session.pass settings handler time shared = (session, shared) := by
  simp only [pass, patience?, waiting, Bool.false_eq_true, if_false]

section

variable (reading : session.stage = .reading held)
  (goesOn : session.isIdle held shared.fabric = false)

include reading goesOn

theorem receive?_of_received {message : Message Handle}
    (received : Channel.receive settings (shared.fabric.putBack session.source held)
      session.source = (.ok message, fabric)) :
    session.receive? settings handler shared =
      some (session.dispatch handler message { shared with fabric }) := by
  simp only [receive?, reading, goesOn, received, Bool.false_eq_true, if_false]

theorem receive?_of_timeout {direction : Direction} {span : Span}
    (late : Channel.receive settings (shared.fabric.putBack session.source held)
      session.source = (.error (.link (.timeout direction span)), fabric)) :
    session.receive? settings handler shared =
      if (shared.fabric.queued session.source).isEmpty then none
      else some (session.turnTo (.reading (held ++ shared.fabric.queued session.source)),
        { shared with fabric }) := by
  simp only [receive?, reading, goesOn, late, Bool.false_eq_true, if_false]

/-- A session ends when it cannot read, unless it could if it waited. -/
theorem receive?_of_error {e : ChannelError}
    (refused : Channel.receive settings (shared.fabric.putBack session.source held)
      session.source = (.error e, fabric))
    (other : ∀ direction span, e ≠ .link (.timeout direction span)) :
    session.receive? settings handler shared =
      some (session.finish (some e) { shared with fabric }) := by
  simp only [receive?, reading, goesOn, refused, Bool.false_eq_true, if_false]

end

end

end Session

end Telematics
