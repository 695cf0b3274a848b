/-
# Telematics.Proofs.Conversation.Progress -- nobody waits for nothing

Of a caller that is not done and its session one can always take a step: a
session that listens has bytes to read unless the caller has all the room there
is, and of a reply either some bytes are on the way or there is room for them
(`Sound.progress`).

When a caller is done and its session cannot go on, every message has been handed
on and nothing is on the way in either direction (`Sound.caught_up`).
-/
import Telematics.Proofs.Conversation.Sound

namespace Telematics.Conversation

set_option autoImplicit false

open Link

variable {σ : Type} (handler : Handler σ) {answer : Message Handle → Payload} {peer : String}
  {number : Nat} {requests : List Request} {caller : Caller} {server : Server} {link : Connection}
  {shared : Shared σ}

/-- Whoever holds some bytes of the first of some frames wants more, and they have not come yet. -/
theorem wanting_of_partial {frame : Frame} {others : List Frame} {held rest : List UInt8}
    (bytes : held ++ rest = Frame.encodeAll (frame :: others))
    (part : Frame.Partial held (frame :: others)) :
    rest ≠ [] ∧ ∃ count, Channel.readingOf held = .wanting count ∧ 0 < count := by
  have short : held.length < frame.encode.length := part
  rw [Frame.encodeAll_cons] at bytes
  obtain ⟨count, wanting, positive, -⟩ := Channel.readingOf_of_lt bytes short
  refine ⟨?_, count, wanting, positive⟩
  rintro rfl
  have length := congrArg List.length bytes
  rw [List.append_nil, List.length_append] at length
  omega

namespace Sound

/-! ## Steps that are possible -/

theorem server_reads (sound : Sound answer peer number requests caller server link)
    (found : shared.fabric[number]? = some link) {held : List UInt8} {count : Nat}
    (reading : server.session.stage = .reading held)
    (wanting : Channel.readingOf held = .wanting count) (positive : 0 < count)
    (some : link.fromNear.queue ≠ []) :
    ∃ next, server.step? handler count shared = .some next := by
  have wanted : 0 < min count count := by omega
  obtain ⟨bytes, pipe, taken⟩ := Pipe.exists_take? some wanted
  rw [Server.step?, sound.running, sound.source, reading]
  simp only [Channel.readOn?, wanting, Fabric.incoming_far found, taken, Option.map_some]
  exact ⟨_, rfl⟩

theorem server_writes (sound : Sound answer peer number requests caller server link)
    (found : shared.fabric[number]? = some link) {request : Message Handle} {reply : Frame}
    (replying : server.session.stage = .replying request reply) (more : server.left ≠ [])
    (empty : link.fromFar.queue = []) :
    ∃ next, server.step? handler 1 shared = some next := by
  obtain ⟨rest, pipe, given⟩ :=
    Pipe.exists_give? (server.left.length ≠ reply.encode.length) sound.down empty more Nat.one_pos
  rw [Server.step?, sound.running, sound.source, replying]
  simp only [Fabric.outgoing_far found, given, Option.map_some]
  exact ⟨_, rfl⟩

theorem caller_reads (sound : Sound answer peer number requests caller server link)
    (channel : Channel) (found : shared.fabric[number]? = some link) {message : Message Handle}
    {held : List UInt8} {count : Nat}
    (reading : caller.stage = .reading message caller.handle held)
    (wanting : Channel.readingOf held = .wanting count) (positive : 0 < count)
    (some : link.fromFar.queue ≠ []) :
    ∃ next, caller.step? count channel shared.fabric = .some next := by
  have wanted : 0 < min count count := by omega
  obtain ⟨bytes, pipe, taken⟩ := Pipe.exists_take? some wanted
  rw [sound.handle] at reading
  rw [Caller.step?, reading]
  simp only [Channel.readOn?, wanting, Fabric.incoming_near found, taken, Option.map_some]
  exact ⟨_, rfl⟩

theorem caller_writes (sound : Sound answer peer number requests caller server link)
    (channel : Channel) (found : shared.fabric[number]? = some link) {message : Message Handle}
    {left : List UInt8} (writing : caller.stage = .writing message caller.handle left)
    (more : left ≠ []) (empty : link.fromNear.queue = []) :
    ∃ next, caller.step? 1 channel shared.fabric = some next := by
  obtain ⟨rest, pipe, given⟩ :=
    Pipe.exists_give? (left.length ≠ message.frame.encode.length) sound.up empty more Nat.one_pos
  rw [sound.handle] at writing
  rw [Caller.step?, writing]
  simp only [Fabric.outgoing_near found, given, Option.map_some]
  exact ⟨_, rfl⟩

/-! ## Who goes on -/

theorem listener_goes_on (sound : Sound answer peer number requests caller server link)
    (found : shared.fabric[number]? = some link) {held left : List UInt8} {frame : Frame}
    {others : List Frame} (reading : server.session.stage = .reading held)
    (bytes : held ++ (link.fromNear.queue ++ left) = Frame.encodeAll (frame :: others))
    (part : Frame.Partial held (frame :: others)) (some : link.fromNear.queue ≠ []) :
    ∃ most next, server.step? handler most shared = .some next := by
  obtain ⟨-, count, wanting, positive⟩ := wanting_of_partial bytes part
  exact ⟨count, sound.server_reads handler found reading wanting positive some⟩

theorem waiter_goes_on (sound : Sound answer peer number requests caller server link)
    (channel : Channel) (found : shared.fabric[number]? = some link) {message : Message Handle}
    {held rest : List UInt8} {reply : Frame}
    (reading : caller.stage = .reading message caller.handle held)
    (bytes : held ++ (link.fromFar.queue ++ rest) = reply.encode)
    (some : link.fromFar.queue ≠ []) :
    ∃ most next, caller.step? most channel shared.fabric = .some next := by
  have positive := List.length_pos_iff.2 some
  have part : Frame.Partial held [reply] := by
    show held.length < reply.encode.length
    rw [← bytes, List.length_append, List.length_append]
    omega
  have all : held ++ (link.fromFar.queue ++ rest) = Frame.encodeAll [reply] := by
    rw [bytes, Frame.encodeAll_cons, Frame.encodeAll_nil, List.append_nil]
  obtain ⟨-, count, wanting, positive⟩ := wanting_of_partial all part
  exact ⟨count, sound.caller_reads channel found reading wanting positive some⟩

/-- Unless a caller is done, it or its session can take a step. -/
theorem progress (sound : Sound answer peer number requests caller server link)
    (channel : Channel) (found : shared.fabric[number]? = some link) :
    caller.Done ∨ (∃ most next, caller.step? most channel shared.fabric = some next) ∨
      ∃ most next, server.step? handler most shared = some next := by
  obtain ⟨begun, taken, -, -, prepared⟩ := sound.wishes
  obtain ⟨frames, pending, -, -, standing⟩ := sound.seen
  generalize stage : caller.stage = own at prepared standing
  generalize serving : server.session.stage = session at standing
  generalize left : server.left = remains at standing
  generalize up : link.fromNear.queue = ahead at standing
  generalize down : link.fromFar.queue = back at standing
  cases prepared with
  | ready =>
    cases todo : caller.todo with
    | nil => exact .inl ⟨stage, todo⟩
    | cons request rest =>
      refine .inr (.inl ⟨0, ?_⟩)
      rw [Caller.step?, stage, todo]
      exact ⟨_, rfl⟩
  | made request addressed type payload =>
    refine .inr (.inl ⟨0, ?_⟩)
    rw [Caller.step?, stage]
    exact ⟨_, rfl⟩
  | writing message bytes =>
    cases standing with
    | @listening _ before held ahead split part quiet unanswered =>
      obtain ⟨frame, others, frames⟩ :
          ∃ frame others, before ++ [message.frame] = frame :: others :=
        List.exists_cons_of_ne_nil (by simp)
      rw [Caller.Stage.current_writing, frames] at split part
      by_cases empty : link.fromNear.queue = []
      · exact .inr (.inl ⟨1, sound.caller_writes channel found stage unanswered empty⟩)
      · rw [← up] at split
        exact .inr (.inr (sound.listener_goes_on handler found serving split part empty))
  | reading message held =>
    cases standing with
    | @listening _ before heard ahead split part quiet unanswered =>
      obtain ⟨frame, others, frames⟩ :
          ∃ frame others, before ++ [message.frame] = frame :: others :=
        List.exists_cons_of_ne_nil (by simp)
      rw [Caller.Stage.current_reading, frames] at split part
      rw [← up] at split
      have some := (wanting_of_partial split part).1
      rw [Caller.Stage.left_reading, List.append_nil] at some
      exact .inr (.inr (sound.listener_goes_on handler found serving split part some))
    | answering wants split more =>
      by_cases empty : link.fromFar.queue = []
      · rw [← left] at more
        exact .inr (.inr ⟨1, sound.server_writes handler found serving more empty⟩)
      · rw [← down] at split
        exact .inr (.inl (sound.waiter_goes_on channel found stage split empty))
    | answered wants split more =>
      rw [← down] at split more
      rw [← List.append_nil link.fromFar.queue] at split
      exact .inr (.inl (sound.waiter_goes_on channel found stage split more))

/-- When a caller is done and its session cannot go on, all messages have been handed on and
nothing is on the way. -/
theorem caught_up (sound : Sound answer peer number requests caller server link)
    (found : shared.fabric[number]? = some link) (done : caller.Done)
    (still : ∀ most, server.step? handler most shared = none) :
    server.seen = caller.sent.map (received ⟨number, .far, unnamed⟩) ∧
      link.fromNear.queue = [] ∧ link.fromFar.queue = [] := by
  obtain ⟨frames, pending, split, handed, standing⟩ := sound.seen
  rw [done.1] at standing
  generalize serving : server.session.stage = session at standing
  generalize left : server.left = remains at standing
  generalize up : link.fromNear.queue = ahead at standing
  generalize down : link.fromFar.queue = back at standing
  cases standing with
  | @listening _ before held ahead bytes part quiet unanswered =>
    simp only [Caller.Stage.current_ready, Caller.Stage.left_ready, List.append_nil]
      at bytes part split
    cases before with
    | nil =>
      rw [List.append_nil] at split
      refine ⟨by rw [handed, split], ?_, rfl⟩
      exact (List.append_eq_nil_iff.1 bytes).2
    | cons first before =>
      obtain ⟨some, -⟩ := wanting_of_partial bytes part
      rw [← up] at some
      rw [← up, ← List.append_nil link.fromNear.queue] at bytes
      obtain ⟨most, next, goesOn⟩ :=
        sound.listener_goes_on handler found serving bytes part some
      rw [still most] at goesOn
      cases goesOn

end Sound

end Telematics.Conversation
