/-
# Telematics.Proofs.Session.Delivery -- a session delivers the leading frames

What a session hands to its handler are the messages that the bytes of its peer
begin with, one for one and in order, up to the first place where there is no frame
or the bytes are used up.  That holds in every run up to any moment, and if the peer
does not stall within a frame nothing is missing when the session ends; once the
peer has written everything and closed the connection, the session ends in as many
turns as there were bytes, and one more at most (`delivers_leading`).

How the bytes come, what the handler does, whether its replies can be written, and
what other sessions and connections do meanwhile is up to the surroundings.
-/
import Telematics.Proofs.Session.Standing

namespace Telematics.Feed

set_option autoImplicit false

open Link Wire

variable {σ : Type} {source : Handle} {bytes : List UInt8} {s : Feed σ}

section

variable (settings : Channel.Settings) (handler : Handler σ)

/-! ## Whole runs -/

/-- What has ended does nothing any more. -/
theorem Over.step (past : s.Over) (move : Move σ) :
    (s.step settings handler move).Over ∧ (s.step settings handler move).seen = s.seen := by
  have still : s.serve? settings handler = none := by
    rw [serve?_of_reading settings handler past.idle,
      Session.receive?_eq_none_of_ended _ _ _ (by simp [past.ended])]
    rfl
  cases move with
  | write most begun =>
    show (s.write most begun).Over ∧ (s.write most begun).seen = s.seen
    unfold write
    split <;> exact ⟨⟨past.ended, past.idle⟩, rfl⟩
  | close how =>
    show (s.close how).Over ∧ (s.close how).seen = s.seen
    unfold close
    split <;> exact ⟨⟨past.ended, past.idle⟩, rfl⟩
  | serve =>
    show (s.serve settings handler).Over ∧ (s.serve settings handler).seen = s.seen
    rw [serve, still]
    exact ⟨past, rfl⟩
  | pass time =>
    have waiting : s.session.isWaiting = false := by simp [Session.isWaiting, past.ended]
    show (s.pass settings handler time).Over ∧ (s.pass settings handler time).seen = s.seen
    rw [pass, still, if_neg (by simp),
      Session.pass_of_not_waiting settings handler.recording time waiting]
    exact ⟨past, rfl⟩
  | others state fabric =>
    show (s.others state fabric).Over ∧ (s.others state fabric).seen = s.seen
    unfold others
    split <;> exact ⟨⟨past.ended, past.idle⟩, rfl⟩

theorem Over.run (past : s.Over) (moves : List (Move σ)) :
    (s.run settings handler moves).Over ∧ (s.run settings handler moves).seen = s.seen := by
  induction moves generalizing s with
  | nil => exact ⟨past, rfl⟩
  | cons move moves ih =>
    obtain ⟨still, seen⟩ := past.step settings handler move
    obtain ⟨atEnd, same⟩ := ih still
    exact ⟨atEnd, same.trans seen⟩

/-- A move leaves a session going, and when nothing more can come it does not get more to do. -/
def GoesOn (source : Handle) (bytes : List UInt8) (s s' : Feed σ) : Prop :=
  s'.Running source bytes ∧ (s.Halted → s'.Halted ∧ s'.effort ≤ s.effort)

theorem GoesOn.refl (running : s.Running source bytes) : GoesOn source bytes s s :=
  ⟨running, fun halted => ⟨halted, Nat.le_refl _⟩⟩

/-- A move leaves a session going or makes it end, and if the peer does not stall it ends only when
everything has been handed over. -/
theorem Running.step (running : s.Running source bytes) (move : Move σ) :
    GoesOn source bytes s (s.step settings handler move) ∨
    (s.step settings handler move).Over ∧
      ((s.step settings handler move).seen = messages source bytes ∨
        (s.step settings handler move).seen = s.seen ∧ s.Stalls settings handler move) := by
  cases move with
  | write most begun =>
    obtain ⟨goesOn, same⟩ := running.write most begun
    refine .inl ⟨goesOn, fun halted => ?_⟩
    show (s.write most begun).Halted ∧ (s.write most begun).effort ≤ s.effort
    rw [same halted]
    exact ⟨halted, Nat.le_refl _⟩
  | close how =>
    obtain ⟨goesOn, halted, -, effort⟩ := running.close how
    exact .inl ⟨goesOn, fun already => ⟨halted already, Nat.le_of_eq effort⟩⟩
  | serve =>
    have step : s.step settings handler .serve = (s.serve? settings handler).getD s := rfl
    rw [step]
    rcases running.serve? settings handler with
      ⟨stuck, -⟩ | ⟨s', served, ⟨past, all⟩ | ⟨goesOn, effort⟩⟩
    · rw [stuck]
      exact .inl (.refl running)
    · rw [served]
      exact .inr ⟨past, .inl all⟩
    · rw [served]
      exact .inl ⟨goesOn, fun halted => (effort halted).imp_right Nat.le_of_lt⟩
  | pass time =>
    rcases running.pass settings handler time with
      ⟨goesOn, effort⟩ | ⟨past, same, stalls⟩
    · exact .inl ⟨goesOn, fun halted => ⟨(effort halted).1, (effort halted).2.1⟩⟩
    · exact .inr ⟨past, .inr ⟨same, stalls⟩⟩
  | others state fabric =>
    obtain ⟨goesOn, incoming, session⟩ := running.others state fabric
    refine .inl ⟨goesOn, fun halted => ?_⟩
    show (s.others state fabric).Halted ∧ (s.others state fabric).effort ≤ s.effort
    rw [Halted, effort, incoming, session]
    exact ⟨halted, Nat.le_refl _⟩

/-- So does a whole run. -/
theorem Running.run (running : s.Running source bytes) (moves : List (Move σ)) :
    GoesOn source bytes s (s.run settings handler moves) ∨
    (s.run settings handler moves).Over ∧
      (s.run settings handler moves).seen <+: messages source bytes ∧
      (s.Halted ∨ Steady settings handler s moves →
        (s.run settings handler moves).seen = messages source bytes) := by
  induction moves generalizing s with
  | nil => exact .inl (.refl running)
  | cons move moves ih =>
    have step : s.run settings handler (move :: moves) =
        (s.step settings handler move).run settings handler moves := rfl
    rw [step]
    rcases running.step settings handler move with
      ⟨goesOn, effort⟩ | ⟨past, all⟩
    · rcases ih goesOn with ⟨atEnd, rest⟩ | ⟨atEnd, first, all⟩
      · refine .inl ⟨atEnd, fun halted => ?_⟩
        obtain ⟨still, less⟩ := effort halted
        exact (rest still).imp_right (Nat.le_trans · less)
      · exact .inr ⟨atEnd, first,
          fun fine => all (fine.imp (fun halted => (effort halted).1) (·.2))⟩
    · obtain ⟨atEnd, same⟩ := past.run settings handler moves
      rw [same]
      refine .inr ⟨atEnd, ?_, fun fine => ?_⟩
      · rcases all with all | ⟨none, -⟩
        · exact all ▸ List.prefix_rfl
        · exact none ▸ running.seen_prefix
      · rcases all with all | ⟨-, stalls⟩
        · exact all
        · rcases fine with halted | steady
          · exact absurd stalls (running.not_stalls settings handler halted move)
          · exact absurd stalls steady.1

/-! ## The end -/

/-- A session gets to serve, and then waits for as long as it does if it still has to. -/
def turn (settings : Channel.Settings) (before : List (Move σ)) : List (Move σ) :=
  before ++ [.serve, .pass settings.transferTimeout.nanoseconds]

/-- When nothing more can come, a session that serves and then waits has less to do. -/
theorem Running.serve_pass (running : s.Running source bytes) (halted : s.Halted) :
    let s' := (s.serve settings handler).pass settings handler
      settings.transferTimeout.nanoseconds
    (s'.Running source bytes ∧ s'.Halted ∧ s'.effort < s.effort) ∨
      s'.Over ∧ s'.seen = messages source bytes := by
  rw [serve]
  rcases running.serve? settings handler with
    ⟨stuck, -⟩ | ⟨s', served, ⟨past, all⟩ | ⟨goesOn, effort⟩⟩
  · rw [stuck]
    rcases running.pass settings handler
      settings.transferTimeout.nanoseconds with ⟨goesOn, effort⟩ | ⟨-, -, stalls⟩
    · obtain ⟨still, -, less⟩ := effort halted
      exact .inl ⟨goesOn, still, less stuck (Nat.le_refl _)⟩
    · exact absurd stalls (running.not_stalls settings handler halted _)
  · rw [served]
    obtain ⟨atEnd, same⟩ := past.step settings handler
      (.pass settings.transferTimeout.nanoseconds)
    exact .inr ⟨atEnd, same.trans all⟩
  · rw [served]
    obtain ⟨still, less⟩ := effort halted
    rcases goesOn.pass settings handler
      settings.transferTimeout.nanoseconds with ⟨atEnd, rest⟩ | ⟨-, -, stalls⟩
    · exact .inl ⟨atEnd, (rest still).1, Nat.lt_of_le_of_lt (rest still).2.1 less⟩
    · exact absurd stalls (goesOn.not_stalls settings handler still _)

/-- A session that gets enough turns when nothing more can come ends. -/
theorem Running.turns (running : s.Running source bytes) (halted : s.Halted)
    (turns : List (List (Move σ))) (enough : s.effort < turns.length) :
    (s.run settings handler (turns.flatMap (turn settings))).Over ∧
      (s.run settings handler (turns.flatMap (turn settings))).seen = messages source bytes := by
  induction turns generalizing s with
  | nil => exact absurd enough (Nat.not_lt_zero _)
  | cons before turns ih =>
    have split : s.run settings handler ((before :: turns).flatMap (turn settings)) =
        (s.run settings handler before).run settings handler
          (.serve :: .pass settings.transferTimeout.nanoseconds ::
            turns.flatMap (turn settings)) := by
      rw [List.flatMap_cons, turn, List.append_assoc, run_append]
      rfl
    rw [split]
    rcases running.run settings handler before with
      ⟨goesOn, effort⟩ | ⟨past, -, all⟩
    case inr =>
      obtain ⟨atEnd, same⟩ := past.run settings handler
        (.serve :: .pass settings.transferTimeout.nanoseconds :: turns.flatMap (turn settings))
      exact ⟨atEnd, same.trans (all (.inl halted))⟩
    obtain ⟨still, less⟩ := effort halted
    rcases goesOn.serve_pass settings handler still with
      ⟨next, stillHalted, fewer⟩ | ⟨past, all⟩
    · exact ih next stillHalted
        (Nat.lt_of_lt_of_le fewer (Nat.le_of_lt_succ (Nat.lt_of_le_of_lt less enough)))
    · obtain ⟨atEnd, same⟩ := past.run settings handler
        (turns.flatMap (turn settings))
      exact ⟨atEnd, same.trans all⟩

/-- **A session delivers the leading frames of its stream.**  Whatever bytes a peer writes, in
whatever portions, and whatever everybody else does, the handler is handed the messages that the
bytes begin with, in order and each once, and nothing of what stands behind them.  If the peer does
not stall within a frame, a session that has ended has handed over all of them.  When everything has
been written and the connection is closed, the session does end. -/
theorem delivers_leading {f : Fabric}
    {source : Handle} (inside : source.link < f.length) (unused : f.incoming source = .new)
    (number : Nat) (state : σ) (bytes : List UInt8) (moves : List (Move σ)) :
    let first := start number source state f bytes
    let s := first.run settings handler moves
    s.seen <+: messages source bytes ∧
    (Steady settings handler first moves → s.session.worker.ended ≠ none →
      s.seen = messages source bytes) ∧
    (s.left = [] → ∀ (how : Farewell) (turns : List (List (Move σ))), bytes.length < turns.length →
      let t := s.run settings handler (.close how :: turns.flatMap (turn settings))
      t.session.worker.ended = some .returned ∧
      (Steady settings handler first moves → t.seen = messages source bytes)) := by
  intro first s
  have running : first.Running source bytes := running_start number state inside unused bytes
  rcases running.run settings handler moves with
    ⟨atEnd, -⟩ | ⟨past, some, all⟩
  · have going : s.session.worker.ended = none := atEnd.going
    refine ⟨atEnd.seen_prefix, fun _ ended => absurd going ended, fun none how turns enough => ?_⟩
    obtain ⟨closed, -, halted, effort⟩ := atEnd.close how
    have few := atEnd.few
    obtain ⟨past, all⟩ := closed.turns settings handler (halted none)
      turns (by omega)
    exact ⟨past.ended, fun _ => all⟩
  · refine ⟨some, fun steady _ => all (.inr steady), fun none how turns enough => ?_⟩
    obtain ⟨atEnd, same⟩ := past.run settings handler
      (.close how :: turns.flatMap (turn settings))
    exact ⟨atEnd.ended, fun steady => same.trans (all (.inr steady))⟩

end

section Example

/-- A frame without a payload, and one that asks for a reply. -/
def silent : Frame := ⟨⟨21, by decide⟩, 1, false, .empty⟩
def asking : Frame := ⟨⟨22, by decide⟩, 2, true, ⟨[0x61, 0x62], by decide⟩⟩

/-- The first with flags that have no meaning, the second, and what is no frame. -/
def stream : List UInt8 :=
  { silent.header with flags := 6 }.encode ++ asking.encode ++ [0x00, 0x54, 0x43]

theorem leading_stream : Frame.leading stream = [silent, asking] := by
  have first : Frame.decode stream = .ok silent := rfl
  have second : Frame.decode (stream.drop 24) = .ok asking := rfl
  have none : Frame.decode (stream.drop 50) = .error (.truncated 24 3) := rfl
  rw [Frame.leading_of_decode first]
  show silent :: Frame.leading (stream.drop 24) = _
  rw [Frame.leading_of_decode second]
  show [silent, asking] ++ Frame.leading (stream.drop 50) = _
  rw [Frame.leading_of_error none]
  rfl

def server : Handle := ⟨0, .far, unnamed⟩

/-- Replies to everything, which goes wrong where no reply was asked for. -/
def chatter : Handler Nat := ⟨fun count _ => (count + 1, some [0x6F]), fun count _ _ => count⟩

/-- The stream comes in three portions, with a pause in each frame. -/
def portions : List (Move Nat) :=
  [.serve, .write 10 false, .serve, .pass 9999999999, .write 30 true, .serve, .serve, .serve,
    .pass 20000000, .write 100 true]

/-- As many turns as there are bytes, and one more. -/
def turns : List (List (Move Nat)) := List.replicate 54 []

/-- The peer leaves behind its last portion, and both messages are handed over all the same. -/
theorem delivers_portions :
    let first := start 1 server 0 [.new] stream
    let s := first.run .standard chatter portions
    let t := s.run .standard chatter (.close .leave :: turns.flatMap (turn .standard))
    Steady .standard chatter first portions ∧ s.left = [] ∧ s.seen.length = 1 ∧
      t.session.worker.ended = some .returned ∧
      t.seen = [⟨silent, some server⟩, ⟨asking, some server⟩] := by
  have steady : Steady .standard chatter (start 1 server 0 [.new] stream) portions := by
    decide +kernel
  have written : ((start 1 server 0 [.new] stream).run .standard chatter portions).left = [] := by
    decide +kernel
  have inside : server.link < [Connection.new].length := by decide
  have whole := delivers_leading .standard chatter inside rfl 1 0 stream portions
  have enough : stream.length < turns.length := by decide
  dsimp only at whole
  have atEnd := whole.2.2 written .leave turns enough
  exact ⟨steady, written, by decide +kernel, atEnd.1, (atEnd.2 steady).trans (by
    rw [messages, leading_stream]
    rfl)⟩

end Example

end Telematics.Feed
