/-
# Telematics.Proofs.Conversation.Standing -- how a caller and its session stand

Between two steps a caller and its session stand in one of three ways
(`Standing`).  The session listens: what it holds, what is on the way and what
the caller has left to write are the frames that it has not handed on, one behind
the other, of which at most the last asks for a reply; nothing is on the way
back.  Or it answers that last frame: what the caller holds, what is on the way
back and what the session has left to write are the reply.  Or it has answered,
and nothing is left to write.
-/
import Telematics.Proofs.Conversation.Steps
import Telematics.Proofs.Wire.Stream

namespace Telematics

set_option autoImplicit false

open Link

namespace Frame

/-- Some bytes are not all of the first of some frames. -/
def Partial (held : List UInt8) : List Frame → Prop
  | [] => held = []
  | frame :: _ => held.length < frame.encode.length

theorem partial_nil (frames : List Frame) : Partial [] frames := by
  cases frames with
  | nil => rfl
  | cons frame frames =>
    show 0 < frame.encode.length
    rw [length_encode]
    exact Nat.lt_of_lt_of_le (by decide) (Nat.le_add_right _ _)

theorem encode_ne_nil (frame : Frame) : frame.encode ≠ [] :=
  List.ne_nil_of_length_pos (partial_nil [frame])

end Frame

namespace Conversation

/-- The frame that answers a message. -/
def replyOf (answer : Message Handle → Payload) (message : Message Handle) : Frame :=
  ⟨message.frame.type, message.frame.sequence, false, answer message⟩

/-! ## The stages of a caller -/

namespace Caller.Stage

/-- The frame that has been begun to be sent. -/
def current : Caller.Stage → List Frame
  | .writing message _ _ => [message.frame]
  | .reading message _ _ => [message.frame]
  | _ => []

def left : Caller.Stage → List UInt8
  | .writing _ _ left => left
  | _ => []

@[simp] theorem current_ready : current .ready = [] := rfl

@[simp] theorem current_made (message : Message Handle) (wantsReply : Bool) :
    current (.made message wantsReply) = [] := rfl

@[simp] theorem current_writing (message : Message Handle) (target : Handle) (left : List UInt8) :
    current (.writing message target left) = [message.frame] := rfl

@[simp] theorem current_reading (message : Message Handle) (source : Handle) (held : List UInt8) :
    current (.reading message source held) = [message.frame] := rfl

@[simp] theorem left_ready : left .ready = [] := rfl

@[simp] theorem left_made (message : Message Handle) (wantsReply : Bool) :
    left (.made message wantsReply) = [] := rfl

@[simp] theorem left_writing (message : Message Handle) (target : Handle) (bytes : List UInt8) :
    left (.writing message target bytes) = bytes := rfl

@[simp] theorem left_reading (message : Message Handle) (source : Handle) (held : List UInt8) :
    left (.reading message source held) = [] := rfl

/-- Whether a caller that has not been answered may be at a stage. -/
def Unanswered : Caller.Stage → Prop
  | .writing _ _ left => left ≠ []
  | .reading message _ held => message.frame.replyRequired = true ∧ held = []
  | _ => True

end Caller.Stage

/-! ## The standing of a caller and its session -/

/-- How the caller's stage, the session's stage and what it has left to write, what is on the way
to the session and what is on the way back go together, with some frames that have not been handed
on. -/
inductive Standing (answer : Message Handle → Payload) (source : Handle) :
    Caller.Stage → Session.Stage → List UInt8 → List UInt8 → List UInt8 → List Frame → Prop
  | listening (stage : Caller.Stage) (before : List Frame) {held up : List UInt8}
      (bytes : held ++ (up ++ stage.left) = Frame.encodeAll (before ++ stage.current))
      (part : Frame.Partial held (before ++ stage.current))
      (quiet : ∀ frame ∈ before, frame.replyRequired = false)
      (unanswered : stage.Unanswered) :
      Standing answer source stage (.reading held) [] up [] (before ++ stage.current)
  | answering {message : Message Handle} {handle : Handle} {held down left : List UInt8}
      (wants : message.frame.replyRequired = true)
      (bytes : held ++ (down ++ left) = (replyOf answer (received source message.frame)).encode)
      (more : left ≠ []) :
      Standing answer source (.reading message handle held)
        (.replying (received source message.frame) (replyOf answer (received source message.frame)))
        left [] down []
  | answered {message : Message Handle} {handle : Handle} {held down : List UInt8}
      (wants : message.frame.replyRequired = true)
      (bytes : held ++ down = (replyOf answer (received source message.frame)).encode)
      (more : down ≠ []) :
      Standing answer source (.reading message handle held) (.reading []) [] [] down []

/-! ## What a step does to the standing -/

namespace Standing

variable {answer : Message Handle → Payload} {source handle : Handle} {message : Message Handle}
  {stage : Caller.Stage} {session : Session.Stage}
  {left up down held bytes portion rest : List UInt8}
  {pending : List Frame}

theorem prepare {wantsReply : Bool}
    (standing : Standing answer source .ready session left up down pending) :
    Standing answer source (.made message wantsReply) session left up down pending := by
  cases standing with
  | listening _ before bytes part quiet _ => exact .listening _ before bytes part quiet trivial

/-- With the beginning of sending another frame is to be handed on. -/
theorem begin {prepared : Message Handle} {wantsReply : Bool}
    (standing : Standing answer source (.made prepared wantsReply) session left up down pending) :
    Standing answer source (.writing message handle message.frame.encode) session left up down
      (pending ++ [message.frame]) := by
  cases standing with
  | @listening _ before held up bytes part quiet _ =>
    simp only [Caller.Stage.current_made, Caller.Stage.left_made, List.append_nil] at bytes part ⊢
    rw [← Caller.Stage.current_writing message handle message.frame.encode]
    refine .listening _ before ?_ ?_ quiet message.frame.encode_ne_nil
    · rw [Caller.Stage.left_writing, Caller.Stage.current_writing, Frame.encodeAll_append, ← bytes]
      simp
    · cases before with
      | nil =>
        have empty : held = [] := part
        rw [empty]
        exact Frame.partial_nil _
      | cons frame before => exact part

theorem give (standing : Standing answer source (.writing message handle (portion ++ rest)) session
      left up down pending) (more : rest ≠ []) :
    Standing answer source (.writing message handle rest) session left (up ++ portion) down
      pending := by
  cases standing with
  | listening _ before bytes part quiet _ =>
    refine .listening (.writing message handle rest) before ?_ part quiet more
    rw [List.append_assoc]
    exact bytes

/-- When the last byte of a message that wants no reply is written, there is nothing to wait
for. -/
theorem give_quiet
    (standing : Standing answer source (.writing message handle portion) session left up down
      pending) (asks : message.frame.replyRequired = false) :
    Standing answer source .ready session left (up ++ portion) down pending := by
  cases standing with
  | @listening _ before held up bytes part quiet _ =>
    have all : before ++ Caller.Stage.current (.writing message handle portion) =
        before ++ [message.frame] ++ Caller.Stage.current .ready := by simp
    rw [all] at bytes part ⊢
    refine .listening .ready (before ++ [message.frame]) ?_ part ?_ trivial
    · rw [← bytes]
      simp
    · intro frame member
      rcases List.mem_append.1 member with earlier | last
      · exact quiet frame earlier
      · rw [List.mem_singleton.1 last]
        exact asks

/-- When the last byte of a message that wants a reply is written, the caller waits for it. -/
theorem give_asking
    (standing : Standing answer source (.writing message handle portion) session left up down
      pending) (asks : message.frame.replyRequired = true) :
    Standing answer source (.reading message handle []) session left (up ++ portion) down
      pending := by
  cases standing with
  | @listening _ before held up bytes part quiet _ =>
    refine .listening (.reading message handle []) before ?_ part quiet ⟨asks, rfl⟩
    simpa using bytes

/-- Bytes that a caller reads are bytes of the reply that it waits for, and with the last of them
nothing is left of it anywhere. -/
theorem collect (standing : Standing answer source (.reading message handle held) session left up
      (bytes ++ rest) pending) (some : bytes ≠ []) :
    ∃ more, held ++ (bytes ++ more) = (replyOf answer (received source message.frame)).encode ∧
      message.frame.replyRequired = true ∧
      (more ≠ [] → Standing answer source (.reading message handle (held ++ bytes)) session left up
        rest pending) ∧
      (more = [] → Standing answer source .ready session left up rest pending) := by
  generalize whole : bytes ++ rest = down at standing
  cases standing with
  | listening => exact absurd (List.append_eq_nil_iff.1 whole).1 some
  | answering wants split more =>
    subst whole
    refine ⟨rest ++ left, by rw [← split, List.append_assoc], wants, ?_, ?_⟩
    · intro _
      exact .answering wants (by rw [← split]; simp) more
    · intro none
      exact absurd (List.append_eq_nil_iff.1 none).2 more
  | answered wants split _ =>
    subst whole
    refine ⟨rest, split, wants, ?_, ?_⟩
    · intro more
      exact .answered wants (by rw [← split]; simp) more
    · rintro rfl
      exact .listening .ready [] rfl rfl (by simp) trivial

section Heard

variable {before others : List Frame} {frame : Frame}
  (behind : rest ++ stage.left = Frame.encodeAll others)
  (frames : before ++ stage.current = frame :: others)
  (quiet : ∀ frame ∈ before, frame.replyRequired = false) (unanswered : stage.Unanswered)

include behind frames quiet unanswered

/-- A frame that asks for no reply and has been read leaves the session listening. -/
theorem heard_quiet (asks : frame.replyRequired = false) :
    Standing answer source stage (.reading []) [] rest [] others := by
  cases before with
  | cons first before =>
    cases frames
    refine .listening stage before ?_ (Frame.partial_nil _) ?_ unanswered
    · exact behind
    · intro other member
      exact quiet other (List.mem_cons_of_mem _ member)
  | nil =>
    cases stage with
    | ready => cases frames
    | made => cases frames
    | writing message target left =>
      cases frames
      exact absurd (List.append_eq_nil_iff.1 behind).2 unanswered
    | reading message source held =>
      cases frames
      rw [unanswered.1] at asks
      cases asks

/-- A frame that asks for a reply is the last one, and the caller waits for that reply. -/
theorem heard_asking (asks : frame.replyRequired = true) :
    Standing answer source stage
      (.replying (received source frame) (replyOf answer (received source frame)))
      (replyOf answer (received source frame)).encode rest [] others := by
  cases before with
  | cons first before =>
    cases frames
    rw [quiet _ List.mem_cons_self] at asks
    cases asks
  | nil =>
    cases stage with
    | ready => cases frames
    | made => cases frames
    | writing message target left =>
      cases frames
      exact absurd (List.append_eq_nil_iff.1 behind).2 unanswered
    | reading message handle held =>
      cases frames
      obtain ⟨wants, rfl⟩ := unanswered
      obtain ⟨rfl, -⟩ := List.append_eq_nil_iff.1 behind
      exact .answering wants rfl (Frame.encode_ne_nil _)

end Heard

/-- Bytes that a session reads are bytes of the first frame that it has not handed on.  With the
last of them it turns to the next frame or, if there is none, to the reply that is asked for. -/
theorem hear {count : Nat}
    (standing : Standing answer source stage (.reading held) left (bytes ++ rest) down pending)
    (some : bytes ≠ []) (wanting : Channel.readingOf held = .wanting count)
    (few : bytes.length ≤ count) :
    left = [] ∧
      ((∃ count, Channel.readingOf (held ++ bytes) = .wanting count ∧
          Standing answer source stage (.reading (held ++ bytes)) left rest down pending) ∨
        ∃ frame others, pending = frame :: others ∧
          Channel.readingOf (held ++ bytes) = .whole frame ∧
          (frame.replyRequired = false →
            Standing answer source stage (.reading []) [] rest down others) ∧
          (frame.replyRequired = true →
            Standing answer source stage
              (.replying (received source frame) (replyOf answer (received source frame)))
              (replyOf answer (received source frame)).encode rest down others)) := by
  generalize whole : bytes ++ rest = up at standing
  cases standing with
  | answered => exact absurd (List.append_eq_nil_iff.1 whole).1 some
  | @listening _ before held up split part quiet unanswered =>
    subst whole
    refine ⟨rfl, ?_⟩
    generalize frames : before ++ stage.current = pending at split part ⊢
    cases pending with
    | nil =>
      rw [Frame.encodeAll_nil] at split
      simp [some] at split
    | cons frame others =>
      rw [Frame.encodeAll_cons, List.append_assoc bytes rest] at split
      rcases Channel.readingOf_append split part wanting few with
        ⟨less, next, wants⟩ | ⟨all, behind, isWhole⟩
      · left
        refine ⟨next, wants, ?_⟩
        rw [← frames]
        refine .listening stage before ?_ ?_ quiet unanswered
        · rw [frames, Frame.encodeAll_cons, ← split, List.append_assoc]
        · rw [frames]
          exact less
      · right
        refine ⟨frame, others, rfl, isWhole, ?_, ?_⟩
        · exact heard_quiet behind frames quiet unanswered
        · exact heard_asking behind frames quiet unanswered

theorem utter {request : Message Handle} {reply : Frame}
    (standing : Standing answer source stage (.replying request reply) (portion ++ rest) up down
      pending) (some : portion ≠ []) :
    (rest ≠ [] →
        Standing answer source stage (.replying request reply) rest up (down ++ portion) pending) ∧
      (rest = [] → Standing answer source stage (.reading []) [] up (down ++ portion) pending) := by
  generalize whole : portion ++ rest = left at standing
  cases standing with
  | answering wants split _ =>
    subst whole
    constructor
    · intro more
      refine .answering wants ?_ more
      rw [List.append_assoc, split]
    · rintro rfl
      rw [List.append_nil] at split
      refine .answered wants split ?_
      intro none
      exact some (List.append_eq_nil_iff.1 none).2

end Standing

end Conversation

end Telematics
