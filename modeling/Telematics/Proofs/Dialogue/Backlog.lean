/-
# Telematics.Proofs.Dialogue.Backlog -- what a late reply costs

A session replies to each message that it has received once at most
(`RepliesOnce`).  Then a call reads its own reply as long as no call before it has
given up (`InStep`).

A call that gives up leaves its reply to be read by a later one, which fails with
a mismatch and leaves its own reply in turn.  Each call that waits takes one reply
from those that are left or gives up, so discarding a reply never makes them
fewer: as many are left as calls have given up (`Sound.backlog`).  If the replies
are made in order, every later call that reads one reads that of the message as
many places before its own as calls have given up before it
(`Sound.read_in_order`).
-/
import Mathlib.Data.List.Induction
import Mathlib.Data.List.Perm.Subperm
import Telematics.Proofs.Dialogue.Replies

namespace Telematics.Dialogue

set_option autoImplicit false

open Link Conversation Channel

/-! ## What has been replied to -/

/-- The replies that have been put on the way, each with the message that it answers, in order. -/
def replies (d : Dialogue) : List (Message Handle × Frame) :=
  d.calls.filterMap fun call => call.frame?.map (call.request, ·)

/-- The messages that have been replied to, in order. -/
def replied (d : Dialogue) : List (Message Handle) :=
  d.replies.map Prod.fst

/-- The messages that the session has received and that ask for a reply. -/
def wanting (d : Dialogue) : List (Message Handle) :=
  d.seen.filter fun request => request.frame.replyRequired

/-- No message has been replied to more often than it has been received. -/
def RepliesOnce (d : Dialogue) : Prop :=
  d.replied.Subperm d.seen

/-- The messages have been replied to in the order in which they have been received. -/
def RepliesInOrder (d : Dialogue) : Prop :=
  d.replied <+: d.wanting

instance (d : Dialogue) : Decidable d.RepliesInOrder :=
  inferInstanceAs (Decidable (d.replied <+: d.wanting))

/-- Those of some frames that ask for a reply. -/
def asking (frames : List Frame) : List Frame :=
  frames.filter Frame.replyRequired

@[simp] theorem asking_append (left right : List Frame) :
    asking (left ++ right) = asking left ++ asking right :=
  List.filter_append ..

theorem mem_replies {d : Dialogue} {request : Message Handle} {reply : Frame} :
    (request, reply) ∈ d.replies ↔
      ∃ payload, ⟨request, payload⟩ ∈ d.calls ∧ Call.frame? ⟨request, payload⟩ = some reply := by
  simp only [replies, List.mem_filterMap, Option.map_eq_some_iff, Prod.mk.injEq]
  constructor
  · rintro ⟨⟨_, payload⟩, called, _, written, rfl, rfl⟩
    exact ⟨payload, called, written⟩
  · rintro ⟨payload, called, written⟩
    exact ⟨_, called, reply, written, rfl, rfl⟩

theorem frames_replies (d : Dialogue) :
    d.replies.map Prod.snd = d.calls.filterMap Call.frame? := by
  rw [replies, List.map_filterMap]
  congr 1
  funext call
  simp [Function.comp_def]

/-- Only what asks for a reply is replied to. -/
theorem replyRequired_of_replied {d : Dialogue} {request : Message Handle}
    (member : request ∈ d.replied) : request.frame.replyRequired = true := by
  obtain ⟨⟨_, reply⟩, among, rfl⟩ := List.mem_map.1 member
  obtain ⟨payload, -, written⟩ := mem_replies.1 among
  unfold Call.frame? at written
  cases made : replyTo _ payload with
  | error e =>
    rw [made] at written
    cases written
  | ok message => exact (of_replyTo made).1

theorem RepliesOnce.wanting {d : Dialogue} (once : d.RepliesOnce) :
    d.replied.Subperm d.wanting := by
  have kept : d.replied.filter (fun request => request.frame.replyRequired) = d.replied :=
    List.filter_eq_self.2 fun _ member => replyRequired_of_replied member
  rw [← kept]
  exact List.Subperm.filter _ once

/-! ## How calls to send have ended -/

/-- A call has given up waiting. -/
def isTimeout : Except ChannelError (Option Payload) → Bool
  | .error (.link (.timeout ..)) => true
  | _ => false

/-- A call has discarded a reply that was not its own. -/
def isMismatch : Except ChannelError (Option Payload) → Bool
  | .error (.sequenceMismatch ..) => true
  | _ => false

/-- How many calls have given up. -/
def timeouts (results : List (Except ChannelError (Option Payload))) : Nat :=
  results.countP isTimeout

theorem timeouts_take_succ {results : List (Except ChannelError (Option Payload))} {number : Nat}
    {result : Except ChannelError (Option Payload)} (there : results[number]? = some result) :
    timeouts (results.take (number + 1)) =
      timeouts (results.take number) + if isTimeout result then 1 else 0 := by
  rw [timeouts, timeouts, List.take_add_one, there, List.countP_append]
  exact congrArg _ List.countP_singleton

theorem isTimeout_of_isMismatch {result : Except ChannelError (Option Payload)}
    (mismatched : isMismatch result = true) : isTimeout result = false := by
  unfold isMismatch at mismatched
  split at mismatched
  · rfl
  · cases mismatched

theorem isTimeout_answerIn (request reply : Frame) :
    isTimeout ((answerIn request reply).map some) = false := by
  unfold answerIn
  split <;> rfl

/-- Each call that asks for a reply gives up or reads one. -/
theorem length_asking {limit : Span} {exchanges : List Exchange}
    (fit : ∀ e ∈ exchanges, e.Fits limit) :
    (asking (exchanges.map Exchange.request)).length =
      timeouts (exchanges.map Exchange.result) + (exchanges.filterMap Exchange.read).length := by
  induction exchanges with
  | nil => rfl
  | cons e exchanges ih =>
    obtain ⟨fits, others⟩ := List.forall_mem_cons.1 fit
    have before := ih others
    simp only [asking, timeouts, List.map_cons] at before ⊢
    cases fits with
    | told quiet => simpa [quiet, isTimeout] using before
    | unanswered asks =>
      simp only [List.filter_cons, asks, if_true, List.length_cons, before, List.countP_cons,
        isTimeout, List.filterMap_cons]
      omega
    | answered asks reply =>
      simp only [List.filter_cons, asks, if_true, List.length_cons, before, List.countP_cons,
        isTimeout_answerIn, Bool.false_eq_true, if_false, List.filterMap_cons]
      omega

/-! ## What a step adds -/

/-- A caller has ended one call at most, and stands by what it has sent. -/
inductive Grown (before after : Caller) : Prop
  | going (sent : before.sent <+: after.sent) (results : after.results = before.results)
  | ended {result : Except ChannelError (Option Payload)} (sent : after.sent = before.sent)
      (results : after.results = before.results ++ [result]) (ready : after.stage = .ready)

theorem Grown.refl (caller : Caller) : Grown caller caller :=
  .going (List.prefix_refl _) rfl

theorem Grown.finish (caller : Caller) (result : Except ChannelError (Option Payload)) :
    Grown caller (caller.finish result) :=
  .ended rfl rfl rfl

theorem Grown.sent {before after : Caller} (grown : Grown before after) :
    before.sent <+: after.sent := by
  cases grown with
  | going sent results => exact sent
  | ended sent results ready => exact sent ▸ List.prefix_refl _

theorem Grown.results {before after : Caller} (grown : Grown before after) :
    before.results <+: after.results := by
  cases grown with
  | going sent results => exact results ▸ List.prefix_refl _
  | ended sent results ready => exact results ▸ List.prefix_append _ _

theorem grown_prepare (caller : Caller) (channel : Channel) (request : Request)
    (todo : List Request) : Grown caller (caller.prepare channel request todo).1 := by
  unfold Caller.prepare
  split
  split
  · exact .going (List.prefix_refl _) rfl
  · exact .ended rfl rfl rfl

theorem grown_step {most : Nat} {channel channel' : Channel} {f f' : Fabric}
    {caller caller' : Caller} (step : caller.step? most channel f = some (caller', channel', f')) :
    Grown caller caller' := by
  unfold Caller.step? at step
  split at step
  · split at step
    · cases step
    · rename_i request todo _
      cases step
      exact grown_prepare caller channel request todo
  · cases step
    unfold Caller.begin
    split
    · exact .going (List.prefix_append _ _) rfl
    · exact .finish _ _
  · obtain ⟨⟨left, pipe⟩, -, same⟩ := Option.map_eq_some_iff.1 step
    cases same
    unfold Caller.written
    split
    · split
      · exact .going (List.prefix_refl _) rfl
      · exact .finish _ _
    · exact .going (List.prefix_refl _) rfl
  · obtain ⟨⟨held, fabric⟩, -, same⟩ := Option.map_eq_some_iff.1 step
    cases same
    unfold Caller.read
    split
    · exact .going (List.prefix_refl _) rfl
    · exact .finish _ _
    · exact .finish _ _

/-- What a step leads to. -/
structure Onward (before after : Dialogue) : Prop where
  caller : Grown before.caller after.caller
  calls : before.calls <+: after.calls

theorem Onward.refl (d : Dialogue) : Onward d d := ⟨.refl _, List.prefix_refl _⟩

theorem Onward.replied {before after : Dialogue} (onward : Onward before after) :
    before.replied <+: after.replied :=
  (onward.calls.filterMap _).map _

theorem onward_step (d : Dialogue) (choice : Choice) : Onward d (d.step choice) := by
  cases choice with
  | make code => exact ⟨.refl _, List.prefix_refl _⟩
  | fill number payload =>
    show Onward d (d.fill number payload)
    unfold fill
    split
    · split
      · exact ⟨.refl _, List.prefix_refl _⟩
      · exact .refl d
    · exact .refl d
  | send number wantsReply =>
    show Onward d (d.send number wantsReply)
    unfold send
    split
    · exact ⟨.going (List.prefix_refl _) rfl, List.prefix_refl _⟩
    · exact .refl d
  | goOn most =>
    show Onward d (d.goOn most)
    unfold goOn
    split
    · rename_i step
      exact ⟨grown_step step, List.prefix_refl _⟩
    · exact .refl d
  | giveUp =>
    show Onward d d.giveUp
    unfold giveUp
    split
    · split
      · exact .refl d
      · exact ⟨.finish _ _, List.prefix_refl _⟩
    · exact .refl d
  | receive most =>
    show Onward d (d.receive most)
    unfold receive
    split
    · unfold hear
      split <;> exact ⟨.refl _, List.prefix_refl _⟩
    · exact .refl d
  | reply number payload =>
    show Onward d (d.reply number payload)
    unfold reply
    split
    · split <;> exact ⟨.refl _, List.prefix_append _ _⟩
    · exact .refl d
  | write most begun =>
    show Onward d (d.write most begun)
    unfold write
    split
    · exact ⟨.refl _, List.prefix_refl _⟩
    · exact .refl d

section

/-! ## What a call has read -/

variable {settings : Settings} {counter : SequenceCounter} {peer : String} {link : Connection}
  {d d' : Dialogue}

theorem Sound.length_results_le (sound : Sound settings counter peer link d) :
    d.caller.results.length ≤ d.caller.sent.length := by
  obtain ⟨exchanges, rest, sent, results, -⟩ := sound.answered
  rw [sent, results, List.length_append, List.length_map, List.length_map]
  exact Nat.le_add_right _ _

theorem Sound.length_sent_of_ready (sound : Sound settings counter peer link d)
    (ready : d.caller.stage = .ready) : d.caller.sent.length = d.caller.results.length := by
  obtain ⟨exchanges, rest, sent, results, -⟩ := sound.answered
  rw [sent, results, ready, Caller.Stage.current_ready, List.append_nil, List.length_map,
    List.length_map]

theorem Sound.wanting_prefix (sound : Sound settings counter peer link d) :
    d.wanting <+: (asking d.caller.sent).map (received far) := by
  obtain ⟨taken, pending, sent, seen, -⟩ := sound.asked
  rw [wanting, seen, List.filter_map, sent, asking_append, List.map_append]
  exact List.prefix_append _ _

theorem eq_take_cons_drop {α : Type} {xs : List α} {number : Nat} {x : α}
    (there : xs[number]? = some x) : xs = xs.take number ++ x :: xs.drop (number + 1) := by
  obtain ⟨inside, rfl⟩ := List.getElem?_eq_some_iff.1 there
  rw [← List.drop_eq_getElem_cons inside, List.take_append_drop]

/-- A call that has ended is found behind those that have ended before it. -/
theorem Sound.exists_call (sound : Sound settings counter peer link d) {number : Nat}
    {request : Frame} {result : Except ChannelError (Option Payload)}
    (sent : d.caller.sent[number]? = some request)
    (ended : d.caller.results[number]? = some result) :
    ∃ (before : List Exchange) (read : Option Frame) (after : List Exchange) (rest : List Frame),
      (∀ e ∈ before, e.Fits settings.transferTimeout) ∧
      Exchange.Fits settings.transferTimeout ⟨request, result, read⟩ ∧
      d.caller.sent.take number = before.map Exchange.request ∧
      d.caller.results.take number = before.map Exchange.result ∧
      d.calls.filterMap Call.frame? =
        (before ++ ⟨request, result, read⟩ :: after).filterMap Exchange.read ++ rest := by
  obtain ⟨exchanges, rest, requests, results, fit, replies, -⟩ := sound.answered
  rw [results, List.getElem?_map, Option.map_eq_some_iff] at ended
  obtain ⟨e, there, rfl⟩ := ended
  have inside := (List.getElem?_eq_some_iff.1 there).1
  have within : number < (exchanges.map Exchange.request).length := by
    rwa [List.length_map]
  rw [requests, List.getElem?_append_left within, List.getElem?_map, there, Option.map_some,
    Option.some_inj] at sent
  subst sent
  refine ⟨exchanges.take number, e.read, exchanges.drop (number + 1), rest, ?_, ?_, ?_, ?_, ?_⟩
  · exact fun other member => fit other (List.mem_of_mem_take member)
  · exact fit e (List.mem_of_getElem? there)
  · rw [requests, List.map_take, List.take_append_of_le_length (Nat.le_of_lt within)]
  · rw [results, List.map_take]
  · rw [replies, ← eq_take_cons_drop there]

/-- The reply that a call has read is found behind those that were read before. -/
theorem getElem?_replies {before after : List Exchange} {e : Exchange} {reply : Frame}
    {rest : List Frame} (read : e.read = some reply)
    (frames : d.calls.filterMap Call.frame? =
      (before ++ e :: after).filterMap Exchange.read ++ rest) :
    ∃ copy, d.replies[(before.filterMap Exchange.read).length]? = some (copy, reply) := by
  have there : (d.replies.map Prod.snd)[(before.filterMap Exchange.read).length]? =
      some reply := by
    rw [frames_replies, frames, List.filterMap_append, List.append_assoc,
      List.getElem?_append_right (Nat.le_refl _), Nat.sub_self, List.filterMap_cons, read]
    rfl
  rw [List.getElem?_map, Option.map_eq_some_iff] at there
  obtain ⟨⟨copy, _⟩, there, rfl⟩ := there
  exact ⟨copy, there⟩

/-! ## As long as nobody gives up -/

/-- The replies that the first calls have read were their own. -/
structure InStep (d : Dialogue) (count : Nat) : Prop where
  answered : (d.replied.take (asking (d.caller.sent.take count)).length).Perm
    ((asking (d.caller.sent.take count)).map (received far))
  matched : ∀ result ∈ d.caller.results.take count, isMismatch result = false

/-- What has been read stays read. -/
theorem InStep.onward {count : Nat} (inStep : InStep d count) (onward : Onward d d')
    (sound : Sound settings counter peer link d) (past : count ≤ d.caller.results.length) :
    InStep d' count := by
  obtain ⟨more, sent⟩ := onward.caller.sent
  obtain ⟨others, results⟩ := onward.caller.results
  obtain ⟨further, replied⟩ := onward.replied
  have sent : d'.caller.sent.take count = d.caller.sent.take count := by
    rw [← sent, List.take_append_of_le_length (Nat.le_trans past sound.length_results_le)]
  have results : d'.caller.results.take count = d.caller.results.take count := by
    rw [← results, List.take_append_of_le_length past]
  have enough : (asking (d.caller.sent.take count)).length ≤ d.replied.length := by
    have length := inStep.answered.length_eq
    rw [List.length_take, List.length_map] at length
    omega
  constructor
  · rw [sent, ← replied, List.take_append_of_le_length enough]
    exact inStep.answered
  · rw [results]
    exact inStep.matched

/-- If nobody has given up before, there is only one reply that a call can read. -/
theorem Sound.own_reply (sound : Sound settings counter peer link d) (once : d.RepliesOnce)
    {before : List Frame} {request reply : Frame} {copy : Message Handle}
    (sent : d.caller.sent = before ++ [request]) (asks : request.replyRequired = true)
    (answered : (d.replied.take (asking before).length).Perm ((asking before).map (received far)))
    (next : d.replies[(asking before).length]? = some (copy, reply)) :
    copy = received far request ∧
      d.replied.Perm ((asking d.caller.sent).map (received far)) := by
  have there : d.replied[(asking before).length]? = some copy := by
    rw [replied, List.getElem?_map, next]
    rfl
  have all : asking d.caller.sent = asking before ++ [request] := by
    rw [sent, asking_append]
    simp [asking, asks]
  have among : d.replied.Subperm ((asking d.caller.sent).map (received far)) :=
    once.wanting.trans sound.wanting_prefix.sublist.subperm
  have long := (List.getElem?_eq_some_iff.1 there).1
  -- There are as many replies as messages that ask for one, so none of these is left out.
  have whole : d.replied.Perm ((asking d.caller.sent).map (received far)) := by
    apply among.perm_of_length_le
    rw [all, List.length_map, List.length_append, List.length_singleton]
    exact long
  have size : d.replied.length = (asking before).length + 1 := by
    rw [whole.length_eq, all, List.length_map, List.length_append, List.length_singleton]
  have last : d.replied = d.replied.take (asking before).length ++ [copy] := by
    have taken := List.take_add_one (l := d.replied) (i := (asking before).length)
    rwa [← size, List.take_length, there] at taken
  have rest : ((asking before).map (received far) ++ [copy]).Perm
      ((asking before).map (received far) ++ [received far request]) := by
    rw [all, List.map_append, List.map_singleton, last] at whole
    exact (answered.symm.append_right _).trans whole
  have own := (List.perm_append_left_iff _).1 rest
  rw [List.perm_singleton, List.singleton_inj] at own
  exact ⟨own, whole⟩

/-- A call that ends is in step if those before it are and nobody has given up. -/
theorem InStep.ended {count : Nat} (before : InStep d count)
    (sound : Sound settings counter peer link d) (once : d.RepliesOnce)
    (ended : d.caller.results.length = count + 1) (ready : d.caller.stage = .ready)
    (patient : timeouts (d.caller.results.take (count + 1)) = 0) : InStep d (count + 1) := by
  have length : d.caller.sent.length = count + 1 := (sound.length_sent_of_ready ready).trans ended
  have requested : d.caller.sent[count]? = some d.caller.sent[count] :=
    List.getElem?_eq_getElem (by omega)
  have returned : d.caller.results[count]? = some d.caller.results[count] :=
    List.getElem?_eq_getElem (by omega)
  generalize d.caller.sent[count] = request at requested
  generalize d.caller.results[count] = result at returned
  have sent : d.caller.sent = d.caller.sent.take count ++ [request] := by
    have next := List.take_add_one (l := d.caller.sent) (i := count)
    rwa [List.take_of_length_le (Nat.le_of_eq length), requested] at next
  rw [timeouts_take_succ returned, Nat.add_eq_zero_iff] at patient
  obtain ⟨others, read, after, rest, fit, fits, requests, results, replies⟩ :=
    sound.exists_call requested returned
  have extend : isMismatch result = false →
      ∀ result ∈ d.caller.results.take (count + 1), isMismatch result = false := by
    intro own
    rw [List.take_add_one, returned, List.forall_mem_append]
    exact ⟨before.matched, List.forall_mem_singleton.2 own⟩
  cases fits with
  | told quiet =>
    have same : asking (d.caller.sent.take (count + 1)) = asking (d.caller.sent.take count) := by
      rw [List.take_add_one, requested, asking_append]
      simp [asking, quiet]
    exact ⟨same ▸ before.answered, extend rfl⟩
  | unanswered asks => cases patient.2
  | answered asks reply =>
    have reads : (others.filterMap Exchange.read).length =
        (asking (d.caller.sent.take count)).length := by
      rw [requests, length_asking fit, ← results, patient.1, Nat.zero_add]
    obtain ⟨copy, next⟩ := getElem?_replies rfl replies
    obtain ⟨payload, -, written⟩ := mem_replies.1 (List.mem_of_getElem? next)
    rw [reads] at next
    obtain ⟨rfl, whole⟩ := sound.own_reply once sent asks before.answered next
    constructor
    · have size := whole.length_eq
      rw [List.length_map] at size
      rw [List.take_of_length_le (Nat.le_of_eq length), List.take_of_length_le (Nat.le_of_eq size)]
      exact whole
    · apply extend
      have same : reply.sequence = request.sequence := (Call.of_frame? written).1
      rw [answerIn_of_sequence same]
      rfl

/-- Every step keeps those calls in step before which nobody has given up. -/
theorem inStep_step (sound : Sound settings counter peer link d) (choice : Choice)
    (once : (d.step choice).RepliesOnce)
    (before : ∀ count ≤ d.caller.results.length, timeouts (d.caller.results.take count) = 0 →
      InStep d count) :
    ∀ count ≤ (d.step choice).caller.results.length,
      timeouts ((d.step choice).caller.results.take count) = 0 → InStep (d.step choice) count := by
  intro count past patient
  have onward := onward_step d choice
  have old : ∀ earlier ≤ d.caller.results.length,
      timeouts ((d.step choice).caller.results.take earlier) = 0 →
        InStep (d.step choice) earlier := by
    intro earlier within patient
    obtain ⟨more, results⟩ := onward.caller.results
    rw [← results, List.take_append_of_le_length within] at patient
    exact (before earlier within patient).onward onward sound within
  rcases Nat.lt_or_ge d.caller.results.length count with beyond | within
  · -- The step has ended the last one of the calls.
    cases onward.caller with
    | going sent results =>
      rw [results] at past
      omega
    | @ended result sent results ready =>
      have length : (d.step choice).caller.results.length = d.caller.results.length + 1 := by
        rw [results, List.length_append, List.length_singleton]
      obtain rfl : count = d.caller.results.length + 1 := by omega
      obtain ⟨link', sound'⟩ := sound.step choice
      refine (old _ (Nat.le_refl _) ?_).ended sound' once length ready patient
      have returned : (d.step choice).caller.results[d.caller.results.length]? = some result := by
        rw [results, List.getElem?_concat_length]
      rw [timeouts_take_succ returned, Nat.add_eq_zero_iff] at patient
      exact patient.1
  · exact old count within patient

end

theorem run_append (d : Dialogue) (past more : List Choice) :
    d.run (past ++ more) = (d.run past).run more :=
  List.foldl_append ..

theorem replied_run (d : Dialogue) (choices : List Choice) :
    d.replied <+: (d.run choices).replied := by
  induction choices generalizing d with
  | nil => exact List.prefix_refl _
  | cons choice choices ih => exact (onward_step d choice).replied.trans (ih (d.step choice))

/-- A session that never replies to the same message again has replied to each once at most at every
moment. -/
theorem repliesOnce_of_nodup {channel : Channel} {peer : String} {choices : List Choice}
    (nodup : ((start channel peer).run choices).replied.Nodup) :
    ∀ past, past <+: choices → RepliesOnce ((start channel peer).run past) := by
  rintro past ⟨more, rfl⟩
  obtain ⟨link, sound⟩ := (Sound.start channel peer).run past
  apply List.subperm_of_subset
  · have later := replied_run ((start channel peer).run past) more
    rw [← run_append] at later
    exact nodup.sublist later.sublist
  · intro request member
    obtain ⟨⟨_, reply⟩, among, rfl⟩ := List.mem_map.1 member
    obtain ⟨payload, called, -⟩ := mem_replies.1 among
    exact sound.calls _ called

theorem inStep_run (channel : Channel) (peer : String) (choices : List Choice)
    (once : ∀ past, past <+: choices → RepliesOnce ((start channel peer).run past)) (count : Nat)
    (past : count ≤ ((start channel peer).run choices).caller.results.length)
    (patient : timeouts (((start channel peer).run choices).caller.results.take count) = 0) :
    InStep ((start channel peer).run choices) count := by
  induction choices using List.reverseRecOn generalizing count with
  | nil =>
    cases Nat.le_zero.1 past
    exact ⟨.nil, nofun⟩
  | append_singleton choices choice ih =>
    obtain ⟨link, sound⟩ := (Sound.start channel peer).run choices
    have now := once _ (List.prefix_refl _)
    rw [run_append] at now past patient ⊢
    refine inStep_step sound choice now ?_ count past patient
    exact ih fun past earlier => once past (earlier.trans (List.prefix_append _ _))

/-! ## When replies come in order -/

/-- The message whose reply the call with this number reads if replies are made in order: it stands
as many places before the message that this call sends, among those that ask for a reply, as calls
have given up before. -/
def due (d : Dialogue) (number : Nat) : Option Frame :=
  (asking d.caller.sent)[(asking (d.caller.sent.take number)).length -
    timeouts (d.caller.results.take number)]?

section

variable {settings : Settings} {counter : SequenceCounter} {peer : String} {link : Connection}
  {d : Dialogue}

/-- A call that does not give up reads the reply that is due. -/
theorem Sound.read_in_order (sound : Sound settings counter peer link d)
    (inOrder : d.RepliesInOrder) {number : Nat} {request : Frame}
    {result : Except ChannelError (Option Payload)}
    (sent : d.caller.sent[number]? = some request) (asks : request.replyRequired = true)
    (ended : d.caller.results[number]? = some result) (patient : isTimeout result = false) :
    timeouts (d.caller.results.take number) ≤ (asking (d.caller.sent.take number)).length ∧
    ∃ earlier reply payload, d.due number = some earlier ∧
      ⟨received far earlier, payload⟩ ∈ d.calls ∧
      Call.frame? ⟨received far earlier, payload⟩ = some reply ∧
      result = (answerIn request reply).map some := by
  obtain ⟨before, read, after, rest, fit, fits, requests, results, replies⟩ :=
    sound.exists_call sent ended
  have counted := length_asking fit
  rw [← requests, ← results] at counted
  refine ⟨Nat.le.intro counted.symm, ?_⟩
  cases fits with
  | told quiet => cases quiet.symm.trans asks
  | unanswered => cases patient
  | answered asks reply =>
    obtain ⟨copy, next⟩ := getElem?_replies rfl replies
    obtain ⟨payload, called, written⟩ := mem_replies.1 (List.mem_of_getElem? next)
    have answers : d.replied[(before.filterMap Exchange.read).length]? = some copy := by
      rw [replied, List.getElem?_map, next]
      rfl
    obtain ⟨more, order⟩ := inOrder.trans sound.wanting_prefix
    have requested : ((asking d.caller.sent).map (received far))[
        (before.filterMap Exchange.read).length]? = some copy := by
      rw [← order, List.getElem?_append_left (List.getElem?_eq_some_iff.1 answers).1, answers]
    rw [List.getElem?_map, Option.map_eq_some_iff] at requested
    obtain ⟨earlier, there, rfl⟩ := requested
    refine ⟨earlier, reply, payload, ?_, called, written, rfl⟩
    rw [due, counted, Nat.add_sub_cancel_left, there]

/-- A message that asks for a reply stands behind those before it that do. -/
theorem getElem?_asking {sent : List Frame} {number : Nat} {request : Frame}
    (there : sent[number]? = some request) (asks : request.replyRequired = true) :
    (asking sent)[(asking (sent.take number)).length]? = some request := by
  have split : asking sent =
      asking (sent.take number) ++ request :: asking (sent.drop (number + 1)) := by
    conv_lhs => rw [eq_take_cons_drop there, asking_append]
    simp [asking, asks]
  rw [split, List.getElem?_append_right (Nat.le_refl _), Nat.sub_self]
  rfl

/-- While nobody has given up a call reads its own reply. -/
theorem Sound.read_own (sound : Sound settings counter peer link d)
    (inOrder : d.RepliesInOrder) {number : Nat} {request : Frame}
    {result : Except ChannelError (Option Payload)}
    (sent : d.caller.sent[number]? = some request) (asks : request.replyRequired = true)
    (ended : d.caller.results[number]? = some result) (patient : isTimeout result = false)
    (before : timeouts (d.caller.results.take number) = 0) :
    ∃ payload, result = .ok (some payload) ∧
      ⟨received far request, payload.bytes⟩ ∈ d.calls := by
  obtain ⟨-, earlier, reply, payload, there, called, written, rfl⟩ :=
    sound.read_in_order inOrder sent asks ended patient
  rw [due, before, Nat.sub_zero, getElem?_asking sent asks] at there
  cases there
  obtain ⟨sequence, rfl⟩ := Call.of_frame? written
  have same : reply.sequence = request.sequence := sequence
  rw [answerIn_of_sequence same]
  exact ⟨reply.payload, rfl, called⟩

/-- Once somebody has given up a call discards the reply to an earlier message. -/
theorem Sound.read_foreign (sound : Sound settings counter peer link d)
    (inOrder : d.RepliesInOrder) (nodup : (d.caller.sent.map Frame.sequence).Nodup)
    {number : Nat} {request : Frame} {result : Except ChannelError (Option Payload)}
    (sent : d.caller.sent[number]? = some request) (asks : request.replyRequired = true)
    (ended : d.caller.results[number]? = some result) (patient : isTimeout result = false)
    (late : 0 < timeouts (d.caller.results.take number)) :
    ∃ earlier, d.due number = some earlier ∧
      result = .error (.sequenceMismatch request.sequence earlier.sequence) := by
  obtain ⟨fewer, earlier, reply, payload, there, called, written, rfl⟩ :=
    sound.read_in_order inOrder sent asks ended patient
  refine ⟨earlier, there, ?_⟩
  have sequence : reply.sequence = earlier.sequence := (Call.of_frame? written).1
  have different : earlier.sequence ≠ request.sequence := by
    intro same
    have here := getElem?_asking sent asks
    rw [due] at there
    have itself : earlier = request :=
      List.inj_on_of_nodup_map nodup (List.mem_of_mem_filter (List.mem_of_getElem? there))
        (List.mem_of_getElem? sent) same
    have once : (asking d.caller.sent).Nodup := (List.Nodup.of_map _ nodup).filter _
    have place := (List.getElem?_inj (List.getElem?_eq_some_iff.1 here).1 once).1
      (here.trans (itself ▸ there.symm))
    omega
  rw [answerIn, if_neg (sequence ▸ different), sequence]
  rfl

/-! ## What is left -/

/-- Of the replies that have been made as many are left as calls have given up, and one more that a
call is waiting for, unless some are still to be made. -/
theorem Sound.backlog (sound : Sound settings counter peer link d) (once : d.RepliesOnce) :
    ∃ (read rest : List Frame), d.replies.map Prod.snd = read ++ rest ∧
      heldAt d.caller.stage ++ (d.fabric.queued d.caller.handle ++ d.left) =
        Frame.encodeAll rest ∧
      rest.length ≤ timeouts d.caller.results + (asking d.caller.stage.current).length ∧
      (d.replied.Perm ((asking d.caller.sent).map (received far)) →
        rest.length = timeouts d.caller.results + (asking d.caller.stage.current).length) := by
  obtain ⟨exchanges, rest, sent, results, fit, replies, back⟩ := sound.answered
  have asked : (asking d.caller.sent).length = timeouts d.caller.results +
      (exchanges.filterMap Exchange.read).length + (asking d.caller.stage.current).length := by
    rw [sent, results, asking_append, List.length_append, length_asking fit]
  have made : d.replied.length = (exchanges.filterMap Exchange.read).length + rest.length := by
    rw [replied, List.length_map, ← List.length_map Prod.snd, frames_replies, replies,
      List.length_append]
  have few : d.replied.length ≤ (asking d.caller.sent).length := by
    have among := once.wanting.length_le
    have requested := sound.wanting_prefix.length_le
    rw [List.length_map] at requested
    omega
  refine ⟨_, rest, (frames_replies d).trans replies, ?_, by omega, ?_⟩
  · rw [sound.queued]
    exact back.bytes
  · intro all
    have size := all.length_eq
    rw [List.length_map] at size
    omega

end

/-! ## Runs -/

/-- **A call that gives up puts the connection out of step for good.**  Nobody discards a reply
before somebody has given up.  But from then on as many replies are left as calls have given up,
however many have been discarded, since a call that discards a reply leaves its own; and if the
replies are made in order, every later call that reads one discards it. -/
theorem timeouts_leave_replies (channel : Channel) (peer : String) (choices : List Choice)
    (once : ∀ past, past <+: choices → RepliesOnce ((start channel peer).run past)) :
    let d := (start channel peer).run choices
    (∀ number result, d.caller.results[number]? = some result → isMismatch result = true →
      0 < timeouts (d.caller.results.take number)) ∧
    (∃ (read rest : List Frame), d.replies.map Prod.snd = read ++ rest ∧
      heldAt d.caller.stage ++ (d.fabric.queued d.caller.handle ++ d.left) =
        Frame.encodeAll rest ∧
      rest.length ≤ timeouts d.caller.results + (asking d.caller.stage.current).length ∧
      (d.replied.Perm ((asking d.caller.sent).map (received far)) →
        rest.length = timeouts d.caller.results + (asking d.caller.stage.current).length)) ∧
    (d.RepliesInOrder → ∀ number request result, d.caller.sent[number]? = some request →
      request.replyRequired = true → d.caller.results[number]? = some result →
      isTimeout result = false →
        (timeouts (d.caller.results.take number) = 0 → ∃ payload,
          result = .ok (some payload) ∧ ⟨received far request, payload.bytes⟩ ∈ d.calls) ∧
        (0 < timeouts (d.caller.results.take number) →
          makings choices < SequenceCounter.period → ∃ earlier, d.due number = some earlier ∧
            result = .error (.sequenceMismatch request.sequence earlier.sequence))) := by
  intro d
  obtain ⟨link, sound⟩ : ∃ link, Sound channel.settings channel.counter peer link d :=
    (Sound.start channel peer).run choices
  refine ⟨?_, sound.backlog (once choices (List.prefix_refl _)), ?_⟩
  · intro number result ended mismatched
    rw [Nat.pos_iff_ne_zero]
    intro before
    have inside := (List.getElem?_eq_some_iff.1 ended).1
    have patient : timeouts (d.caller.results.take (number + 1)) = 0 := by
      rw [timeouts_take_succ ended, before, isTimeout_of_isMismatch mismatched]
      rfl
    have inStep := inStep_run channel peer choices once (number + 1) inside patient
    have among : result ∈ d.caller.results.take (number + 1) := by
      rw [List.take_add_one, ended]
      simp
    cases mismatched.symm.trans (inStep.matched result among)
  · intro inOrder number request result sent asks ended patient
    refine ⟨sound.read_own inOrder sent asks ended patient, fun late few => ?_⟩
    have made : d.drafts.length ≤ SequenceCounter.period := by
      have length : d.drafts.length = 0 + makings choices := length_drafts_run _ choices
      omega
    exact sound.read_foreign inOrder (sound.settled made).1 sent asks ended patient late

/-- The reply to each message comes when the next one has been sent. -/
def alwaysLate : List Choice :=
  [.make 5, .fill 0 [0x61], .send 0 true, .goOn 0, .goOn 64, .giveUp, .receive 24, .receive 1,
    .reply 0 [0x6C], .write 64 false, .make 5, .send 1 true, .goOn 0, .goOn 64, .goOn 24, .goOn 1,
    .receive 24, .reply 1 [0x6D], .write 64 false, .make 5, .send 2 true, .goOn 0, .goOn 64,
    .goOn 24, .goOn 1, .receive 24, .reply 2 [0x6E], .write 64 false]

/-- One call gives up, the session replies to every message once and in order, and two calls
discard a reply. -/
theorem one_timeout_two_mismatches :
    let d := (start (.new .standard) "session").run alwaysLate
    (∀ past, past <+: alwaysLate → RepliesOnce ((start (.new .standard) "session").run past)) ∧
      d.replied = d.seen ∧ d.RepliesInOrder ∧
      d.caller.results =
        [.error (.link (.timeout .read (.ofMilliseconds 10000))), .error (.sequenceMismatch 2 1),
          .error (.sequenceMismatch 3 2)] ∧
      ¬ d.caller.results.countP isMismatch ≤ timeouts d.caller.results := by
  have nodup : ((start (.new .standard) "session").run alwaysLate).replied.Nodup := by
    decide +kernel
  exact ⟨repliesOnce_of_nodup nodup, by decide +kernel, by decide +kernel, by decide +kernel,
    by decide +kernel⟩

/-- The reply to the third message is the one that is left. -/
theorem timeouts_leave_replies_alwaysLate :
    let d := (start (.new .standard) "session").run alwaysLate
    (∀ past, past <+: alwaysLate → RepliesOnce ((start (.new .standard) "session").run past)) ∧
      (∃ (read rest : List Frame), d.replies.map Prod.snd = read ++ rest ∧ rest.length = 1) ∧
      d.RepliesInOrder ∧ d.due 2 = d.caller.sent[1]? ∧
      ∃ earlier, d.due 2 = some earlier ∧
        d.caller.results[2]? = some (.error (.sequenceMismatch 3 earlier.sequence)) := by
  have nodup : ((start (.new .standard) "session").run alwaysLate).replied.Nodup := by
    decide +kernel
  have once := repliesOnce_of_nodup nodup
  obtain ⟨-, ⟨read, rest, replies, -, -, left⟩, order⟩ :=
    timeouts_leave_replies (.new .standard) "session" alwaysLate once
  have inOrder : ((start (.new .standard) "session").run alwaysLate).RepliesInOrder := by
    decide +kernel
  have ended : ((start (.new .standard) "session").run alwaysLate).caller.results[2]? =
      some (.error (.sequenceMismatch 3 2)) := by decide +kernel
  obtain ⟨earlier, due, result⟩ := (order inOrder 2 third (.error (.sequenceMismatch 3 2))
    (by decide +kernel) rfl ended rfl).2 (by decide +kernel) (by decide)
  refine ⟨once, ⟨read, rest, replies, ?_⟩, inOrder, by decide +kernel, earlier, due, ?_⟩
  · exact (left (by decide +kernel)).trans (by decide +kernel)
  · exact ended.trans (congrArg some result)

end Telematics.Dialogue
