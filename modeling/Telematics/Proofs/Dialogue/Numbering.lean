/-
# Telematics.Proofs.Dialogue.Numbering -- which message has which number

The messages of a dialogue are numbered in the order in which they are asked to be
made (`Numbered`), and a message that has been taken up to be sent is not there to
be taken up once more.  So those that have been sent have numbers of their own,
unless more messages were made than there are numbers (`Numbered.nodup`).
-/
import Mathlib.Data.List.Nodup
import Telematics.Proofs.Channel.Exchange
import Telematics.Proofs.Dialogue.Steps
import Telematics.Proofs.Message.Sequence

namespace Telematics.Dialogue

set_option autoImplicit false

open Link Conversation

/-- The number of a message that is about to be sent. -/
def pendingNumber : Caller.Stage → List UInt32
  | .made message _ => [message.frame.sequence]
  | _ => []

/-- The numbers of the messages that have been taken up, in order. -/
def numbers (caller : Caller) : List UInt32 :=
  caller.sent.map Frame.sequence ++ pendingNumber caller.stage

/-- The messages have the numbers that a counter gives out, and no message has been taken up
twice. -/
structure Numbered (counter : SequenceCounter) (d : Dialogue) : Prop where
  next : d.channel.counter = counter.after d.drafts.length
  drafts : ∀ (k : Nat) (message : Message Handle), d.drafts[k]? = some (some message) →
    message.frame.sequence = counter.number k ∧ message.destination = some d.caller.handle
  taken : ∃ order : List Nat, order.Nodup ∧ (∀ k ∈ order, d.drafts[k]? = some none) ∧
    numbers d.caller = order.map counter.number

namespace Numbered

variable {counter : SequenceCounter} {d d' : Dialogue}

theorem start (channel : Channel) (peer : String) :
    Numbered channel.counter (Dialogue.start channel peer) where
  next := rfl
  drafts := by
    intro k message found
    cases found
  taken := ⟨[], List.nodup_nil, by simp, rfl⟩

/-- Whatever leaves the messages and those that have been taken up as they are leaves the numbers
as they are. -/
theorem congr (numbered : Numbered counter d) (channel : d'.channel = d.channel)
    (drafts : d'.drafts = d.drafts) (handle : d'.caller.handle = d.caller.handle)
    (same : numbers d'.caller = numbers d.caller) : Numbered counter d' where
  next := by
    rw [channel, drafts]
    exact numbered.next
  drafts := by
    rw [drafts, handle]
    exact numbered.drafts
  taken := by
    rw [drafts, same]
    exact numbered.taken

theorem make (numbered : Numbered counter d) (code : Int32) : Numbered counter (d.make code) where
  next := by
    show d.channel.counter.take.2 = counter.after (d.drafts ++ [_]).length
    rw [List.length_append, List.length_singleton, SequenceCounter.after_succ, numbered.next]
  drafts := by
    intro k message found
    rcases Nat.lt_or_ge k d.drafts.length with before | behind
    · rw [Dialogue.make, List.getElem?_append_left before] at found
      exact numbered.drafts k message found
    · have last : k = d.drafts.length := by
        have inside := (List.getElem?_eq_some_iff.1 found).1
        rw [Dialogue.make, List.length_append, List.length_singleton] at inside
        omega
      rw [last, Dialogue.make, List.getElem?_concat_length, Option.some_inj] at found
      have created : (d.channel.create code d.caller.handle).1 = .ok message := by
        cases result : (d.channel.create code d.caller.handle).1 with
        | error e =>
          rw [result] at found
          cases found
        | ok made =>
          rw [result] at found
          cases found
          rfl
      obtain ⟨sequence, destination⟩ := Channel.of_create created
      rw [sequence, numbered.next, last]
      exact ⟨rfl, destination⟩
  taken := by
    obtain ⟨order, nodup, gone, same⟩ := numbered.taken
    refine ⟨order, nodup, ?_, same⟩
    intro k member
    have inside := (List.getElem?_eq_some_iff.1 (gone k member)).1
    rw [Dialogue.make, List.getElem?_append_left inside]
    exact gone k member

theorem fill (numbered : Numbered counter d) (number : Nat) (payload : List UInt8) :
    Numbered counter (d.fill number payload) := by
  unfold Dialogue.fill
  split
  · rename_i message found
    split
    · rename_i filled whole
      obtain ⟨sequence, destination⟩ := Message.of_withPayload whole
      have inside := (List.getElem?_eq_some_iff.1 found).1
      refine ⟨?_, ?_, ?_⟩
      · rw [List.length_set]
        exact numbered.next
      · intro k other there
        by_cases same : number = k
        · subst same
          rw [List.getElem?_set_self inside] at there
          cases there
          rw [sequence, destination]
          exact numbered.drafts number message found
        · rw [List.getElem?_set_ne same] at there
          exact numbered.drafts k other there
      · obtain ⟨order, nodup, gone, same⟩ := numbered.taken
        refine ⟨order, nodup, ?_, same⟩
        intro k member
        have different : number ≠ k := by
          rintro rfl
          cases found.symm.trans (gone number member)
        rw [List.getElem?_set_ne different]
        exact gone k member
    · exact numbered
  · exact numbered

theorem send (numbered : Numbered counter d) (number : Nat) (wantsReply : Bool) :
    Numbered counter (d.send number wantsReply) := by
  unfold Dialogue.send
  split
  · rename_i message ready found
    have inside := (List.getElem?_eq_some_iff.1 found).1
    refine ⟨?_, ?_, ?_⟩
    · rw [List.length_set]
      exact numbered.next
    · intro k other there
      by_cases same : number = k
      · subst same
        rw [List.getElem?_set_self inside] at there
        cases there
      · rw [List.getElem?_set_ne same] at there
        exact numbered.drafts k other there
    · obtain ⟨order, nodup, gone, same⟩ := numbered.taken
      have new : number ∉ order := by
        intro member
        cases found.symm.trans (gone number member)
      refine ⟨order ++ [number], ?_, ?_, ?_⟩
      · exact nodup.append (List.nodup_singleton number) (by simpa using new)
      · intro k member
        rcases List.mem_append.1 member with before | last
        · have different : number ≠ k := by
            rintro rfl
            exact new before
          rw [List.getElem?_set_ne different]
          exact gone k before
        · rw [List.mem_singleton.1 last]
          exact List.getElem?_set_self inside
      · have sequence := (numbered.drafts number message found).1
        rw [List.map_append, ← same, List.map_singleton, ← sequence, numbers, numbers, ready]
        simp [pendingNumber]
  · exact numbered

/-- **Messages that have been sent have numbers of their own.** -/
theorem nodup (numbered : Numbered counter d) (few : d.drafts.length ≤ SequenceCounter.period) :
    (numbers d.caller).Nodup := by
  obtain ⟨order, nodup, gone, same⟩ := numbered.taken
  rw [same]
  refine List.Nodup.map_on ?_ nodup
  intro i first j second equal
  have before := (List.getElem?_eq_some_iff.1 (gone i first)).1
  have behind := (List.getElem?_eq_some_iff.1 (gone j second)).1
  exact SequenceCounter.number_inj (by omega) (by omega) equal

end Numbered

end Telematics.Dialogue
