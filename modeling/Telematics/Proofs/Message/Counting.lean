/-
# Telematics.Proofs.Message.Counting -- who is given which number

Callers that share a counter come one after another, in whatever order.  Nothing
but their place in this order decides which number they are given: the one behind
`k` others is given `k` modulo the number of numbers, plus one (`getElem?_serve`).

Of all that is done at a desk only the making of a message on a channel takes a
number of that channel, and it takes it also if there is no such message
(`channel_run`).  So a message carries the number of its place among those that
were to be made on its channel, and keeps it (`sequence_of_created`), and the same
number comes again when all others have been given out (`numbers_in_turn`).
-/
import Telematics.Proofs.Message.Handling
import Telematics.Proofs.Message.Sequence

namespace Telematics

set_option autoImplicit false

open Link

/-! ## Callers that share a counter -/

namespace SequenceCounter

/-- Which number each of some callers is given, who come one after another. -/
def serve {κ : Type} : SequenceCounter → List κ → List (κ × UInt32)
  | _, [] => []
  | counter, caller :: callers =>
    (caller, counter.take.1) :: counter.take.2.serve callers

/-- The place of a caller decides on the number. -/
theorem getElem?_serve {κ : Type} (counter : SequenceCounter) (callers : List κ) (k : Nat) :
    (counter.serve callers)[k]? = (callers[k]?).map fun caller => (caller, counter.number k) := by
  induction callers generalizing counter k with
  | nil => rfl
  | cons caller callers ih =>
    cases k with
    | zero => rfl
    | succ k => exact ih counter.take.2 k

theorem length_serve {κ : Type} (counter : SequenceCounter) (callers : List κ) :
    (counter.serve callers).length = callers.length := by
  induction callers generalizing counter with
  | nil => rfl
  | cons caller callers ih => simp [serve, ih]

theorem toNat_number_new (k : Nat) : (new.number k).toNat = k % 0xFFFFFFFF + 1 := by
  rw [toNat_number]
  show (0 + k) % period + 1 = _
  rw [Nat.zero_add, period]

theorem number_new_ne_zero (k : Nat) : new.number k ≠ 0 := by
  intro zero
  have numbered := toNat_number_new k
  rw [zero] at numbered
  cases numbered

/-- A number comes again only when all the others have been given out. -/
theorem number_new_ne {i j : Nat} (order : i < j) (near : j < i + 0xFFFFFFFF) :
    new.number i ≠ new.number j := by
  intro same
  have residues := congrArg UInt32.toNat same
  rw [toNat_number_new, toNat_number_new] at residues
  omega

/-- As many numbers one after another as there are numbers are all different. -/
theorem nodup_serve_new {κ : Type} (callers : List κ) (start : Nat) :
    ((((new.serve callers).map Prod.snd).drop start).take 0xFFFFFFFF).Nodup := by
  rw [List.Nodup, List.pairwise_iff_getElem]
  intro i j first second order
  have number : ∀ k (within : k < ((new.serve callers).map Prod.snd).length),
      ((new.serve callers).map Prod.snd)[k] = new.number k := by
    intro k within
    rw [List.length_map, length_serve] at within
    apply Option.some_inj.1
    rw [← List.getElem?_eq_getElem, List.getElem?_map, getElem?_serve,
      List.getElem?_eq_getElem within]
    rfl
  rw [List.length_take] at first second
  rw [List.getElem_take, List.getElem_take, List.getElem_drop, List.getElem_drop, number, number]
  exact number_new_ne (by omega) (by omega)

end SequenceCounter

/-! ## Messages that are made on a channel -/

namespace Channel

/-- A number that is not positive is no type, and takes a number all the same. -/
theorem create_of_not_pos (channel : Channel) {code : Int32} (refused : ¬ 0 < code)
    (destination : Handle) : channel.create code destination =
      (.error (.message (.invalidType code)),
        { channel with counter := channel.counter.take.2 }) := by
  have none : MessageType.ofCode code = .error (.invalidType code) := by
    rw [MessageType.ofCode, MessageType.ofCode?_eq_none_iff.2 refused]
  simp only [create, Message.new, none, bind, Except.bind]
  rfl

end Channel

namespace Desk

/-- Whether an operation is to make a message on a channel. -/
def Operation.creates (index : Nat) : Operation → Bool
  | .create channel _ _ => channel = index
  | _ => false

theorem channels_add (desk : Desk) (origin : Origin)
    (result : Except ChannelError (Message Handle)) :
    (desk.add origin result).2.channels = desk.channels := by
  cases result <;> rfl

theorem channels_onChannel {desk : Desk} {channel : Nat}
    {act : Channel → Except ChannelError Unit × Desk}
    (keeps : ∀ channel, (act channel).2.channels = desk.channels) :
    (desk.onChannel channel act).2.channels = desk.channels := by
  unfold onChannel
  split
  · rfl
  · exact keeps _

theorem channels_onMessage {desk : Desk} {index : Nat}
    {act : Held → Except ChannelError Unit × Desk}
    (keeps : ∀ held, (act held).2.channels = desk.channels) :
    (desk.onMessage index act).2.channels = desk.channels := by
  unfold onMessage
  split
  · rfl
  · exact keeps _

variable {desk : Desk} {index : Nat} {channel : Channel}

/-- Only the making of a message on a channel takes a number of it. -/
theorem channel_step (there : desk.channels[index]? = some channel) (operation : Operation) :
    (desk.step operation).2.channels[index]? = some
      { channel with
        counter := channel.counter.after (if operation.creates index then 1 else 0) } := by
  have same : ∀ channels, channels = desk.channels → channels[index]? = some channel :=
    fun channels same => same ▸ there
  cases operation with
  | create own code destination =>
    by_cases here : own = index
    · subst here
      have within := (List.getElem?_eq_some_iff.1 there).1
      simp only [step, onChannel, there, channels_add, List.getElem?_set_self within,
        Operation.creates, decide_true, if_true]
      rfl
    · simp only [step, Operation.creates, here, decide_false, Bool.false_eq_true, if_false]
      unfold onChannel
      split
      · exact there
      · rw [channels_add, List.getElem?_set_ne here]
        exact there
  | new code sequence => exact same _ (channels_add _ _ _)
  | decode bytes => exact same _ (channels_add _ _ _)
  | receive own source => exact same _ (channels_onChannel fun _ => channels_add _ _ _)
  | setPayload own bytes =>
    refine same _ (channels_onMessage fun held => ?_)
    cases held.message.withPayload bytes <;> rfl
  | copy own => exact same _ (channels_onMessage fun _ => rfl)
  | setReplyRequired own wanted => exact same _ (channels_onMessage fun _ => rfl)
  | setDestination own destination => exact same _ (channels_onMessage fun _ => rfl)
  | send own held wantsReply =>
    exact same _ (channels_onChannel fun _ => channels_onMessage fun _ => rfl)
  | others fabric => exact there

/-- A channel has given out as many numbers as messages were to be made on it. -/
theorem channel_run (there : desk.channels[index]? = some channel)
    (operations : List Operation) :
    (desk.run operations).channels[index]? = some
      { channel with
        counter := channel.counter.after (operations.countP (Operation.creates index)) } := by
  induction operations generalizing desk channel with
  | nil => exact there
  | cons operation operations ih =>
    refine (ih (channel_step there operation)).trans ?_
    rw [List.countP_cons]
    cases operation.creates index <;> rfl

/-- A message that is made on a channel carries the number that it takes. -/
theorem step_create (there : desk.channels[index]? = some channel) (code : Int32)
    (destination : Handle) :
    (∃ type : MessageType, type.code = code ∧
      (desk.step (.create index code destination)).1 = .ok () ∧
      (desk.step (.create index code destination)).2.messages = desk.messages ++
        [⟨⟨⟨type, channel.counter.upcoming, false, .empty⟩, some destination⟩, .here⟩]) ∨
    (¬ 0 < code ∧
      (desk.step (.create index code destination)).1 = .error (.message (.invalidType code)) ∧
      (desk.step (.create index code destination)).2.messages = desk.messages) := by
  by_cases positive : 0 < code
  · have made := channel.create_eq ⟨code, positive⟩ destination
    refine .inl ⟨⟨code, positive⟩, rfl, ?_, ?_⟩
    · simp only [step, onChannel, there, made, add]
    · simp only [step, onChannel, there, made, add]
  · have refused := channel.create_of_not_pos positive destination
    refine .inr ⟨positive, ?_, ?_⟩
    · simp only [step, onChannel, there, refused, add]
    · simp only [step, onChannel, there, refused, add]

/-- A message in whose place another one is put leaves it its number. -/
theorem sequence_set {messages : List Held} {place : Nat} {held old new : Held}
    (there : messages[index]? = some held) (here : messages[place]? = some old)
    (same : new.message.frame.sequence = old.message.frame.sequence) :
    ∃ held', (messages.set place new)[index]? = some held' ∧
      held'.message.frame.sequence = held.message.frame.sequence := by
  by_cases own : place = index
  · subst own
    rw [here, Option.some.injEq] at there
    rw [← there]
    exact ⟨new, List.getElem?_set_self (List.getElem?_eq_some_iff.1 here).1, same⟩
  · exact ⟨held, (List.getElem?_set_ne own).trans there, rfl⟩

/-- A message keeps its place and its number, whatever is done. -/
theorem Change.keeps_sequence {messages messages' : List Held} {operation : Operation}
    {result : Except ChannelError Unit} (change : Change messages operation result messages')
    {held : Held} (there : messages[index]? = some held) :
    ∃ held', messages'[index]? = some held' ∧
      held'.message.frame.sequence = held.message.frame.sequence := by
  have appended : ∀ new, (messages ++ [new])[index]? = some held := fun new =>
    (List.getElem?_append_left (List.getElem?_eq_some_iff.1 there).1).trans there
  cases change with
  | none => exact ⟨held, there, rfl⟩
  | added new blank => exact ⟨held, appended new, rfl⟩
  | copied new among => exact ⟨held, appended new, rfl⟩
  | filled old here payload short => exact sequence_set there here rfl
  | marked old here wanted => exact sequence_set there here rfl
  | addressed old here destination => exact sequence_set there here rfl
  | tried old here other => exact sequence_set there here rfl

theorem sequence_run {held : Held} (there : desk.messages[index]? = some held)
    (operations : List Operation) :
    ∃ held', (desk.run operations).messages[index]? = some held' ∧
      held'.message.frame.sequence = held.message.frame.sequence := by
  induction operations generalizing desk held with
  | nil => exact ⟨held, there, rfl⟩
  | cons operation operations ih =>
    obtain ⟨held', next, same⟩ := (step_changes desk operation).keeps_sequence there
    obtain ⟨held'', last, still⟩ := ih next
    exact ⟨held'', last, still.trans same⟩

/-- A message that was made on a channel carries the number that it took, whatever is done
afterwards. -/
theorem sequence_of_created (there : desk.channels[index]? = some channel) {code : Int32}
    {destination : Handle} (made : (desk.step (.create index code destination)).1 = .ok ())
    {later : List Operation} {held : Held}
    (kept : (desk.run (.create index code destination :: later)).messages[desk.messages.length]? =
      some held) :
    held.message.frame.sequence = channel.counter.upcoming := by
  rcases step_create there code destination with ⟨type, -, -, added⟩ | ⟨-, failed, -⟩
  · have placed : (desk.step (.create index code destination)).2.messages[desk.messages.length]? =
        some ⟨⟨⟨type, channel.counter.upcoming, false, .empty⟩, some destination⟩, .here⟩ := by
      rw [added, List.getElem?_concat_length]
    obtain ⟨held', last, same⟩ := sequence_run placed later
    obtain rfl : held' = held := Option.some.inj (last.symm.trans kept)
    exact same
  · rw [made] at failed
    cases failed

theorem run_append (desk : Desk) (first second : List Operation) :
    desk.run (first ++ second) = (desk.run first).run second :=
  List.foldl_append

/-- **Numbers are given out in turn.**  Callers who share a new counter are given one number after
another, in whatever order they come: none is zero, and as many of them one after another as there
are numbers are all different.  On a channel the message that is to be made behind `k` others takes
the number behind `k` others, whatever else is done and whether or not there is such a message.  So
two messages that were made there with fewer in between than there are numbers differ in theirs, and
they do so for good. -/
theorem numbers_in_turn {κ : Type} (callers : List κ) {settings : Channel.Settings}
    (fresh : desk.channels[index]? = some (.new settings)) :
    (∀ k caller, callers[k]? = some caller → ∃ number : UInt32,
      (SequenceCounter.new.serve callers)[k]? = some (caller, number) ∧
        number.toNat = k % 0xFFFFFFFF + 1) ∧
    (∀ given ∈ SequenceCounter.new.serve callers, given.2 ≠ 0) ∧
    (∀ start, ((((SequenceCounter.new.serve callers).map Prod.snd).drop start).take
      0xFFFFFFFF).Nodup) ∧
    (∀ before code destination,
      let now := desk.run before
      let made := now.step (.create index code destination)
      ∃ number : UInt32,
        number.toNat = before.countP (Operation.creates index) % 0xFFFFFFFF + 1 ∧
        ((∃ type : MessageType, type.code = code ∧ made.1 = .ok () ∧ made.2.messages =
            now.messages ++ [⟨⟨⟨type, number, false, .empty⟩, some destination⟩, .here⟩]) ∨
          ¬ 0 < code ∧ made.1 = .error (.message (.invalidType code)) ∧
            made.2.messages = now.messages)) ∧
    ∀ before between after code code' destination destination' held held',
      let first := desk.run before
      let second := first.run (.create index code destination :: between)
      let last := second.run (.create index code' destination' :: after)
      (first.step (.create index code destination)).1 = .ok () →
      (second.step (.create index code' destination')).1 = .ok () →
      last.messages[first.messages.length]? = some held →
      last.messages[second.messages.length]? = some held' →
      between.countP (Operation.creates index) + 1 < 0xFFFFFFFF →
      held.message.frame.sequence ≠ held'.message.frame.sequence := by
  have standing := fun before => channel_run fresh before
  refine ⟨?_, ?_, SequenceCounter.nodup_serve_new callers, ?_, ?_⟩
  · intro k caller comes
    refine ⟨SequenceCounter.new.number k, ?_, SequenceCounter.toNat_number_new k⟩
    rw [SequenceCounter.getElem?_serve, comes]
    rfl
  · intro given member
    obtain ⟨k, there⟩ := List.mem_iff_getElem?.1 member
    rw [SequenceCounter.getElem?_serve, Option.map_eq_some_iff] at there
    obtain ⟨caller, -, rfl⟩ := there
    exact SequenceCounter.number_new_ne_zero k
  · intro before code destination now made
    exact ⟨_, SequenceCounter.toNat_number_new _, step_create (standing before) code destination⟩
  · intro before between after code code' destination destination' held held' first second last one
      other here there few
    have whole : last = first.run (.create index code destination ::
        (between ++ .create index code' destination' :: after)) :=
      (run_append first (.create index code destination :: between) _).symm
    have standing' : second.channels[index]? = _ :=
      run_append desk before (.create index code destination :: between) ▸ standing _
    rw [sequence_of_created (standing before) one (whole ▸ here),
      sequence_of_created standing' other there]
    apply SequenceCounter.number_new_ne
    · simp [Operation.creates]
    · simp [Operation.creates]
      omega

/-- An empty desk with a new channel. -/
def blank : Desk := ⟨[], [.new .standard], []⟩

/-- Two messages are to be made on the channel, and the second has no type. -/
def refusal (destination : Handle) : List Operation :=
  [.create 0 5 destination, .create 0 (-1) destination]

theorem numbers_in_turn_refusal :
    let far : Handle := ⟨0, .far, "bridge"⟩
    let now := blank.run (refusal far)
    blank.channels[0]? = some (.new .standard) ∧ now.messages.length = 1 ∧
    (∃ number : UInt32, (SequenceCounter.new.serve ["upload", "bridge", "upload"])[2]? =
      some ("upload", number) ∧ number.toNat = 3) ∧
    ∃ (number : UInt32) (type : MessageType), number.toNat = 3 ∧ type.code = 7 ∧
      (now.step (.create 0 7 far)).2.messages =
        now.messages ++ [⟨⟨⟨type, number, false, .empty⟩, some far⟩, .here⟩] := by
  intro far now
  have fresh : blank.channels[0]? = some (.new .standard) := rfl
  obtain ⟨served, -, -, made, -⟩ := numbers_in_turn ["upload", "bridge", "upload"] fresh
  refine ⟨fresh, by decide, served 2 "upload" rfl, ?_⟩
  obtain ⟨number, numbered, ⟨type, code, -, added⟩ | ⟨refused, -⟩⟩ := made (refusal far) 7 far
  · exact ⟨number, type, numbered, code, added⟩
  · exact absurd (by decide) refused

end Desk

end Telematics
