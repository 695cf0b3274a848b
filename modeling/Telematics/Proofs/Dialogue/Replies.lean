/-
# Telematics.Proofs.Dialogue.Replies -- no reply is taken for another

A call to send that returns a payload has read a reply to the very message that it
has sent, even if earlier calls have given up and their replies are still to come.
Such a reply is read by a later call, which fails with a mismatch of the numbers
and leaves everything behind that one reply where it is (`Exchange.Settled`,
`reply_reaches_its_request`).  The same holds of a reply that is collected at once
(`called_of_collect`).

The reason is that a reply carries the number of the message to which it belongs,
that only messages that have been sent are received and replied to, and that they
have numbers of their own as long as not all numbers have been given out.
-/
import Telematics.Proofs.Conversation.Several
import Telematics.Proofs.Dialogue.Sound

namespace Telematics.Dialogue

set_option autoImplicit false

open Link Conversation Channel

/-- How a call to send may end when a session has been told to make some replies. -/
inductive Exchange.Settled (calls : List Call) (limit : Span) : Exchange → Prop
  | told {request : Frame} (quiet : request.replyRequired = false) :
      Settled calls limit ⟨request, .ok none, none⟩
  | unanswered {request : Frame} (asks : request.replyRequired = true) :
      Settled calls limit ⟨request, .error (.link (.timeout .read limit)), none⟩
  /-- The reply that has been read belongs to the request. -/
  | answered {request reply : Frame} {payload : Payload} (asks : request.replyRequired = true)
      (called : ⟨received far request, payload.bytes⟩ ∈ calls)
      (written : Call.frame? ⟨received far request, payload.bytes⟩ = some reply) :
      Settled calls limit ⟨request, .ok (some payload), some reply⟩
  /-- The reply that has been read belongs to something else. -/
  | mismatched {request reply : Frame} {call : Call} (asks : request.replyRequired = true)
      (called : call ∈ calls) (written : call.frame? = some reply)
      (foreign : call.request ≠ received far request) :
      Settled calls limit ⟨request,
        .error (.sequenceMismatch request.sequence call.request.frame.sequence), some reply⟩

theorem Call.of_frame? {call : Call} {reply : Frame} (written : call.frame? = some reply) :
    reply.sequence = call.request.frame.sequence ∧ reply.payload.bytes = call.payload := by
  unfold Call.frame? at written
  cases made : replyTo call.request call.payload with
  | error e =>
    rw [made] at written
    cases written
  | ok message =>
    rw [made] at written
    cases written
    obtain ⟨-, -, sequence, -, payload⟩ := of_replyTo made
    exact ⟨sequence, payload⟩

/-- A call that has read a reply has found out whether it is its own, if the numbers of what has been
sent are different. -/
theorem Exchange.Fits.settled {limit : Span} {e : Exchange} (fits : e.Fits limit)
    {calls : List Call} {sent : List Frame} (nodup : (sent.map Frame.sequence).Nodup)
    (own : e.request ∈ sent)
    (replied : ∀ reply, e.read = some reply → ∃ call ∈ calls, call.frame? = some reply ∧
      ∃ frame ∈ sent, call.request = received far frame) :
    e.Settled calls limit := by
  cases fits with
  | told quiet => exact .told quiet
  | unanswered asks => exact .unanswered asks
  | @answered request asks reply =>
    obtain ⟨⟨copy, bytes⟩, called, written, frame, sent, rfl⟩ := replied reply rfl
    obtain ⟨sequence, payload⟩ := Call.of_frame? written
    -- The number tells the message from all others that have been sent.
    by_cases same : reply.sequence = request.sequence
    · have itself : frame = request :=
        List.inj_on_of_nodup_map nodup sent own (sequence.symm.trans same)
      subst itself
      cases payload
      rw [answerIn_of_sequence same]
      exact .answered asks called written
    · have foreign : received far frame ≠ received far request := by
        intro equal
        cases equal
        exact same sequence
      rw [answerIn, if_neg same, sequence]
      exact .mismatched asks called written foreign

theorem Exchange.Settled.of_ok {calls : List Call} {limit : Span} {e : Exchange} {payload : Payload}
    (settled : e.Settled calls limit) (returned : e.result = .ok (some payload)) :
    e.request.replyRequired = true ∧ ⟨received far e.request, payload.bytes⟩ ∈ calls := by
  cases settled with
  | told quiet => cases returned
  | unanswered asks => cases returned
  | answered asks called written =>
    cases returned
    exact ⟨asks, called⟩
  | mismatched asks called written foreign => cases returned

/-- In a dialogue with few enough messages every call that has read a reply has found out whether it
is its own. -/
theorem Sound.settled {settings : Settings} {counter : SequenceCounter} {peer : String}
    {link : Connection} {d : Dialogue} (sound : Sound settings counter peer link d)
    (few : d.drafts.length ≤ SequenceCounter.period) :
    (d.caller.sent.map Frame.sequence).Nodup ∧
    ∃ (exchanges : List Exchange) (rest : List Frame),
      d.caller.sent = exchanges.map Exchange.request ++ d.caller.stage.current ∧
      d.caller.results = exchanges.map Exchange.result ∧
      (∀ e ∈ exchanges, e.Settled d.calls settings.transferTimeout) ∧
      d.calls.filterMap Call.frame? = exchanges.filterMap Exchange.read ++ rest ∧
      heldAt d.caller.stage ++ (d.fabric.queued d.caller.handle ++ d.left) =
        Frame.encodeAll rest := by
  have nodup : (d.caller.sent.map Frame.sequence).Nodup :=
    (List.nodup_append.1 (sound.numbered.nodup few)).1
  obtain ⟨taken, pending, split, seen, -⟩ := sound.asked
  obtain ⟨exchanges, rest, sent, results, fit, replies, back⟩ := sound.answered
  refine ⟨nodup, exchanges, rest, sent, results, ?_, replies, ?_⟩
  · intro e member
    refine (fit e member).settled nodup ?_ ?_
    · rw [sent]
      exact List.mem_append_left _ (List.mem_map_of_mem member)
    · intro reply read
      have written : reply ∈ d.calls.filterMap Call.frame? := by
        rw [replies]
        exact List.mem_append_left _ (List.mem_filterMap.2 ⟨e, member, read⟩)
      obtain ⟨call, called, frame⟩ := List.mem_filterMap.1 written
      have known := sound.calls call called
      rw [seen] at known
      obtain ⟨request, before, copy⟩ := List.mem_map.1 known
      refine ⟨call, called, frame, request, ?_, copy.symm⟩
      rw [split]
      exact List.mem_append_left _ before
  · rw [sound.queued]
    exact back.bytes

/-! ## Runs -/

theorem length_drafts_step (d : Dialogue) (choice : Choice) :
    (d.step choice).drafts.length = d.drafts.length + makings [choice] := by
  cases choice with
  | make code => exact List.length_append
  | fill number payload =>
    show (d.fill number payload).drafts.length = _
    unfold fill
    split
    · split
      · exact List.length_set
      · rfl
    · rfl
  | send number wantsReply =>
    show (d.send number wantsReply).drafts.length = _
    unfold send
    split
    · exact List.length_set
    · rfl
  | goOn most =>
    show (d.goOn most).drafts.length = _
    unfold goOn
    split <;> rfl
  | giveUp =>
    show d.giveUp.drafts.length = _
    unfold giveUp
    split
    · split <;> rfl
    · rfl
  | receive most =>
    show (d.receive most).drafts.length = _
    unfold receive
    split
    · unfold hear
      split <;> rfl
    · rfl
  | reply number payload =>
    show (d.reply number payload).drafts.length = _
    unfold reply
    split
    · split <;> rfl
    · rfl
  | write most begun =>
    show (d.write most begun).drafts.length = _
    unfold write
    split <;> rfl

theorem length_drafts_run (d : Dialogue) (choices : List Choice) :
    (d.run choices).drafts.length = d.drafts.length + makings choices := by
  induction choices generalizing d with
  | nil => rfl
  | cons choice choices ih =>
    have both : makings (choice :: choices) = makings [choice] + makings choices := by
      rw [makings, ← List.singleton_append, List.countP_append]
      rfl
    show ((d.step choice).run choices).drafts.length = _
    rw [ih, length_drafts_step, both, Nat.add_assoc]

/-- **No reply is taken for another**, whoever gives up when and however late replies are made.  A
call that returns a payload has sent a message, and the session has been told to reply to its copy of
that message with that payload.  A reply to anything else makes the call that reads it fail with a
mismatch, and that is all that the call reads. -/
theorem reply_reaches_its_request (channel : Channel) (peer : String) (choices : List Choice)
    (few : makings choices < SequenceCounter.period) :
    let d := (start channel peer).run choices
    (d.caller.sent.map Frame.sequence).Nodup ∧
    d.seen <+: d.caller.sent.map (received far) ∧
    (∀ call ∈ d.calls, call.request ∈ d.seen) ∧
    (∀ (i : Nat) (request : Frame) (payload : Payload), d.caller.sent[i]? = some request →
      d.caller.results[i]? = some (.ok (some payload)) →
        request.replyRequired = true ∧ ⟨received far request, payload.bytes⟩ ∈ d.calls) ∧
    ∃ (exchanges : List Exchange) (rest : List Frame),
      d.caller.sent = exchanges.map Exchange.request ++ d.caller.stage.current ∧
      d.caller.results = exchanges.map Exchange.result ∧
      (∀ e ∈ exchanges, e.Settled d.calls channel.settings.transferTimeout) ∧
      d.calls.filterMap Call.frame? = exchanges.filterMap Exchange.read ++ rest ∧
      heldAt d.caller.stage ++ (d.fabric.queued d.caller.handle ++ d.left) =
        Frame.encodeAll rest := by
  intro d
  obtain ⟨link, sound⟩ : ∃ link, Sound channel.settings channel.counter peer link d :=
    (Sound.start channel peer).run choices
  have made : d.drafts.length ≤ SequenceCounter.period := by
    have length : d.drafts.length = 0 + makings choices := length_drafts_run _ choices
    omega
  obtain ⟨taken, pending, split, seen, -⟩ := sound.asked
  obtain ⟨nodup, exchanges, rest, sent, results, settled, accounts⟩ := sound.settled made
  refine ⟨nodup, ?_, sound.calls, ?_, exchanges, rest, sent, results, settled, accounts⟩
  · rw [seen, split, List.map_append]
    exact List.prefix_append _ _
  · intro i request payload requested returned
    rw [results, List.getElem?_map, Option.map_eq_some_iff] at returned
    obtain ⟨e, there, result⟩ := returned
    have inside := (List.getElem?_eq_some_iff.1 there).1
    rw [sent, List.getElem?_append_left (by simpa using inside), List.getElem?_map, there]
      at requested
    cases requested
    exact (settled e (List.mem_of_getElem? there)).of_ok result

section Example

/-- The reply to the first message comes when the second one has been sent, and the session replies
to the third one at once. -/
def lateReply : List Choice :=
  [.make 5, .fill 0 [0x61], .send 0 true, .goOn 0, .goOn 64, .giveUp, .receive 24, .receive 1,
    .make 5, .send 1 true, .goOn 0, .goOn 64, .reply 0 [0x6C], .write 64 false, .goOn 24, .goOn 1,
    .make 5, .send 2 true, .goOn 0, .goOn 64, .receive 24, .receive 24, .reply 2 [0x70],
    .write 64 false, .goOn 24, .goOn 1]

def third : Frame := ⟨⟨5, by decide⟩, 3, true, .empty⟩

theorem third_reply_reaches_third_request :
    let d := (start (.new .standard) "session").run lateReply
    makings lateReply < SequenceCounter.period ∧
      d.caller.results =
        [.error (.link (.timeout .read (.ofMilliseconds 10000))), .error (.sequenceMismatch 2 1),
          .ok (some ⟨[0x70], by decide⟩)] ∧
      ⟨received far third, [0x70]⟩ ∈ d.calls := by
  have few : makings lateReply < SequenceCounter.period := by decide
  have replies := (reply_reaches_its_request (.new .standard) "session" lateReply few).2.2.2.1
  refine ⟨few, by decide +kernel, ?_⟩
  exact (replies 2 third ⟨[0x70], by decide⟩ (by decide +kernel) (by decide +kernel)).2

end Example

/-! ## Reading a reply at once -/

/-- Several steps of the caller between which the session does not take any. -/
theorem run_goOn {d : Dialogue} {mosts : List Nat} {caller : Caller} {channel : Channel}
    {fabric : Fabric}
    (steps : d.caller.steps? mosts d.channel d.fabric = some (caller, channel, fabric)) :
    d.run (mosts.map .goOn) = { d with caller, channel, fabric } := by
  induction mosts generalizing d with
  | nil =>
    cases steps
    rfl
  | cons most mosts ih =>
    obtain ⟨⟨next, channel, fabric⟩, first, others⟩ := Option.bind_eq_some_iff.1 steps
    have step : d.step (.goOn most) = { d with caller := next, channel, fabric } := by
      simp only [Dialogue.step, goOn, first]
    show (d.step (.goOn most)).run (mosts.map .goOn) = _
    rw [step]
    exact ih others

/-- **A reply that is collected at once** belongs to the message that has been sent. -/
theorem called_of_collect {settings : Settings} {counter : SequenceCounter} {peer : String}
    {link : Connection} {d : Dialogue} (sound : Sound settings counter peer link d)
    (few : d.drafts.length ≤ SequenceCounter.period) {message : Message Handle} {source : Handle}
    {payload : Payload} {fabric : Fabric} (reading : d.caller.stage = .reading message source [])
    (collected : collect settings d.fabric source message.frame = (.ok payload, fabric)) :
    ⟨received far message.frame, payload.bytes⟩ ∈ d.calls := by
  have aimed := sound.aimed
  rw [reading] at aimed
  cases (show source = ⟨0, .near, peer⟩ from aimed.1)
  have inside := (List.getElem?_eq_some_iff.1 sound.found).1
  have pipe : (d.fabric.incoming ⟨0, .near, peer⟩).Sound := by
    rw [Fabric.incoming_near sound.found]
    exact sound.down
  obtain ⟨mosts, steps⟩ :=
    Caller.steps?_collect d.channel reading inside pipe collected (by simp)
  obtain ⟨link', after⟩ := sound.run (mosts.map .goOn)
  rw [run_goOn steps] at after
  obtain ⟨-, before, -, sent, -, -, -, -⟩ := sound.settled few
  obtain ⟨-, exchanges, -, sent', results', settled, -, -⟩ := after.settled few
  have requests : exchanges.map Exchange.request = before.map Exchange.request ++ [message.frame] := by
    rw [reading] at sent
    exact (List.append_nil _).symm.trans (sent'.symm.trans sent)
  rcases List.eq_nil_or_concat exchanges with rfl | ⟨others, last, rfl⟩
  · simp at requests
  · rw [List.concat_eq_append] at requests results' settled
    rw [List.map_append] at requests results'
    have request : last.request = message.frame :=
      List.singleton_inj.1 (List.append_inj_right' requests rfl)
    have result : last.result = .ok (some payload) :=
      (List.singleton_inj.1 (List.append_inj_right' results' rfl)).symm
    have own := ((settled last (by simp)).of_ok result).2
    rwa [request] at own

end Telematics.Dialogue
