/-
# Telematics.Proofs.Session.Feed -- a session and a peer that writes to it

A peer has some bytes to write, any bytes at all, and writes them in portions as it
likes.  When it has written all of them it may close the connection, in any of the
ways there are.  The session takes its steps at any time, and waits when there is
nothing that it could do.  Everybody else may do anything but read or write these
bytes: other sessions may change what handlers share, other connections may come
and go, and the replies of the session may be read or not, or may go nowhere.

A step that is not possible changes nothing, so every list of moves is a run.  What
has reached the handler is kept (`Feed.seen`).
-/
import Telematics.Proofs.Link.Portion
import Telematics.Proofs.Session.Recording

namespace Telematics

set_option autoImplicit false

open Link

/-- How a peer closes a connection. -/
inductive Farewell where
  /-- It stops writing. -/
  | endWriting
  | hangUp
  | leave
  deriving DecidableEq

/-- The connections when the other side of one has been closed. -/
def Farewell.bid (how : Farewell) (f : Fabric) (source : Handle) : Fabric :=
  let peer : Handle := { source with side := source.side.other }
  match how with
  | .endWriting => f.endWriting peer
  | .hangUp => f.hangUp peer
  | .leave => f.leave peer

namespace Link

namespace Fabric

variable {f : Fabric} {h : Handle}

theorem length_write (timeout : Span) (bytes : List UInt8) :
    (f.write h timeout bytes).2.length = f.length :=
  length_update f h _

/-- To write leaves alone what comes from the other side. -/
theorem incoming_write (inside : h.link < f.length) (timeout : Span) (bytes : List UInt8) :
    (f.write h timeout bytes).2.incoming h = f.incoming h := by
  rw [write, incoming, linkOf_update _ inside]
  exact Connection.incoming_withOutgoing _ _ _

end Fabric

/-- What closing makes of the pipe that the other side reads. -/
theorem Connection.incoming_leave (l : Connection) (side : Side) :
    (l.leave side.other).incoming side =
      if (l.outgoing side).queue.isEmpty then (l.incoming side).finish
      else { l.incoming side with ending := .reset } := by
  cases side <;> rfl

/-- A peer that closes a connection leaves what is queued, and nothing more comes. -/
theorem incoming_bid {f : Fabric} {source : Handle} (how : Farewell)
    (inside : source.link < f.length) :
    ((how.bid f source).incoming source).queue = (f.incoming source).queue ∧
      ((how.bid f source).incoming source).ending ≠ .live := by
  have finished : ∀ p : Pipe, p.finish.queue = p.queue ∧ p.finish.ending ≠ .live := by
    intro p
    refine ⟨?_, Connection.ending_finish p⟩
    unfold Pipe.finish
    split <;> rfl
  let peer : Handle := { source with side := source.side.other }
  have there : ∀ l, (f.update peer l).incoming source = l.incoming source.side := by
    intro l
    show ((f.update peer l).linkOf peer).incoming source.side = _
    rw [@Fabric.linkOf_update f peer l inside]
  cases how with
  | endWriting =>
    have ends : ((f.linkOf source).endWriting source.side.other).incoming source.side =
        (f.incoming source).finish := by
      rw [Fabric.incoming]
      cases source.side <;> rfl
    rw [Farewell.bid, Fabric.endWriting, there]
    exact ends ▸ finished _
  | hangUp =>
    have ends : (f.linkOf source).hangUp.incoming source.side = (f.incoming source).finish := by
      rw [Fabric.incoming]
      cases source.side <;> rfl
    rw [Farewell.bid, Fabric.hangUp, there]
    exact ends ▸ finished _
  | leave =>
    rw [Farewell.bid, Fabric.leave, there]
    have ends := (f.linkOf source).incoming_leave source.side
    split at ends
    · exact ends ▸ finished _
    · exact ends ▸ ⟨rfl, by simp⟩

theorem length_bid {f : Fabric} {source : Handle} (how : Farewell) :
    (how.bid f source).length = f.length := by
  cases how <;> exact Fabric.length_update _ _ _

theorem Pipe.give?_of_halted {p : Pipe} (halted : p.ending ≠ .live) (most : Nat) (begun : Bool)
    (bytes : List UInt8) : p.give? most begun bytes = none := by
  unfold Pipe.give?
  split
  · simp [writeSome, halted]
  · rfl

end Link

/-- A session, and what its peer has still to write. -/
structure Feed (σ : Type) where
  session : Session
  shared : Shared (σ × List (Message Handle))
  left : List UInt8

namespace Feed

/-- What happens next. -/
inductive Move (σ : Type) where
  /-- The peer writes at most so many bytes, as the first of a portion or as more of it. -/
  | write (most : Nat) (begun : Bool)
  /-- The peer closes the connection, if it has written everything. -/
  | close (how : Farewell)
  /-- The session takes a step. -/
  | serve
  /-- Time passes, and the session waits if there is nothing that it can do. -/
  | pass (time : Nat)
  /-- Others leave a state and connections behind that hold the same bytes for the session. -/
  | others (state : σ) (fabric : Fabric)

variable {σ : Type}

/-- A session of which a peer has not written anything yet. -/
def start (number : Nat) (source : Handle) (state : σ) (f : Fabric) (bytes : List UInt8) : Feed σ :=
  ⟨.start number source, ⟨(state, []), f, []⟩, bytes⟩

/-- The messages that have been handed to the handler, in order. -/
def seen (s : Feed σ) : List (Message Handle) := s.shared.state.2

def incoming (s : Feed σ) : Pipe := s.shared.fabric.incoming s.session.source

/-! ## The moves of the others -/

def withFabric (s : Feed σ) (fabric : Fabric) : Feed σ :=
  { s with shared := { s.shared with fabric } }

def write (s : Feed σ) (most : Nat) (begun : Bool) : Feed σ :=
  match s.incoming.give? most begun s.left with
  | some (left, pipe) =>
    { s.withFabric (s.shared.fabric.withIncoming s.session.source pipe) with left }
  | none => s

def close (s : Feed σ) (how : Farewell) : Feed σ :=
  if s.left = [] then s.withFabric (how.bid s.shared.fabric s.session.source) else s

def others (s : Feed σ) (state : σ) (fabric : Fabric) : Feed σ :=
  if s.session.source.link < fabric.length ∧ fabric.incoming s.session.source = s.incoming then
    { s with shared := { s.shared with state := (state, s.seen), fabric } }
  else s

/-! ## The moves of the session -/

section

variable (settings : Channel.Settings) (handler : Handler σ)

/-- The step that a session can take: it goes on with its reply, or with reading. -/
def serve? (s : Feed σ) : Option (Feed σ) :=
  ((s.session.send? settings handler.recording s.shared).or
      (s.session.receive? settings handler.recording s.shared)).map fun (session, shared) =>
    { s with session, shared }

def serve (s : Feed σ) : Feed σ :=
  (s.serve? settings handler).getD s

def pass (s : Feed σ) (time : Nat) : Feed σ :=
  if (s.serve? settings handler).isSome then s
  else
    let (session, shared) := s.session.pass settings handler.recording time s.shared
    { s with session, shared }

def step (s : Feed σ) : Move σ → Feed σ
  | .write most begun => s.write most begun
  | .close how => s.close how
  | .serve => s.serve settings handler
  | .pass time => s.pass settings handler time
  | .others state fabric => s.others state fabric

/-- What a number of moves lead to. -/
def run (s : Feed σ) (moves : List (Move σ)) : Feed σ :=
  moves.foldl (step settings handler) s

theorem run_append (s : Feed σ) (moves more : List (Move σ)) :
    s.run settings handler (moves ++ more) =
      (s.run settings handler moves).run settings handler more :=
  List.foldl_append

/-- A peer makes a session wait within a frame for as long as it waits at all. -/
def Stalls (s : Feed σ) : Move σ → Prop
  | .pass time =>
    (s.serve? settings handler).isNone ∧ s.session.worker.ended = none ∧
      s.session.stage.held ≠ [] ∧
      settings.transferTimeout.nanoseconds ≤ s.session.waited.nanoseconds + time
  | _ => False

instance (s : Feed σ) : (move : Move σ) → Decidable (s.Stalls settings handler move)
  | .pass _ => inferInstanceAs (Decidable (_ ∧ _ ∧ _ ∧ _))
  | .write _ _ => inferInstanceAs (Decidable False)
  | .close _ => inferInstanceAs (Decidable False)
  | .serve => inferInstanceAs (Decidable False)
  | .others _ _ => inferInstanceAs (Decidable False)

/-- Nowhere in a run does the peer stall. -/
def Steady : Feed σ → List (Move σ) → Prop
  | _, [] => True
  | s, move :: moves =>
    ¬ s.Stalls settings handler move ∧ Steady (s.step settings handler move) moves

instance decidableSteady : (s : Feed σ) → (moves : List (Move σ)) →
    Decidable (Steady settings handler s moves)
  | _, [] => inferInstanceAs (Decidable True)
  | s, move :: moves =>
    have := decidableSteady (s.step settings handler move) moves
    inferInstanceAs (Decidable (_ ∧ _))

/-- To go on for so many steps is to be served as often. -/
theorem run_serve (n : Nat) (s : Feed σ) :
    s.run settings handler (List.replicate n .serve) =
      { s with
        session := (Session.goOn settings handler.recording n s.session s.shared).1
        shared := (Session.goOn settings handler.recording n s.session s.shared).2 } := by
  induction n generalizing s with
  | zero => rfl
  | succ n ih =>
    show (s.serve settings handler).run settings handler (List.replicate n .serve) = _
    rw [ih, Session.goOn]
    cases met : (s.session.send? settings handler.recording s.shared).or
      (s.session.receive? settings handler.recording s.shared) with
    | some reached => simp only [serve, serve?, met, Option.map_some, Option.getD_some]
    | none =>
      have stays : Session.goOn settings handler.recording n s.session s.shared =
          (s.session, s.shared) := by
        cases n with
        | zero => rfl
        | succ n => rw [Session.goOn, met]
      simp only [serve, serve?, met, Option.map_none, Option.getD_none, stays]

end

end Feed

end Telematics
