/-
# Telematics.Proofs.Shutdown.Alone -- a coordinator that is left alone

`elapse` lets a coordinator do all that it can while nobody else does anything.
What it comes to is what the coordinator's thread comes to by its own steps
(`leads_elapse`), so whatever holds between any two of these holds of it.
-/
import Mathlib.Logic.Relation
import Telematics.Shutdown.Coordinator

namespace Telematics.Shutdown

set_option autoImplicit false

variable {ε : Type}

namespace Coordinator

/-! ## What the thread does next -/

/-- A round that has been held leads to the next one or to the completion. -/
theorem phaseAfter_cases (thread : Thread ε) :
    phaseAfter thread = .resting ∨ ∃ report, reportOf? thread = some report ∧
      report.complete = true ∧ phaseAfter thread = .closing := by
  unfold phaseAfter
  cases reportOf? thread with
  | none => exact .inl rfl
  | some report =>
    cases complete : report.complete with
    | false => exact .inl (by simp [complete])
    | true => exact .inr ⟨report, rfl, complete, by simp [complete]⟩

theorem holdRounds_succ (n : Nat) (c : Coordinator ε) :
    holdRounds (n + 1) c =
      match c.holdRound.1.phase with
      | .closing => (c.holdRound.1.advance.1.advance.1, c.holdRound.2.effects)
      | _ =>
        if c.holdRound.1.course.calls.length = c.course.calls.length then
          (c.holdRound.1, c.holdRound.2.effects)
        else
          ((holdRounds n c.holdRound.1).1,
            c.holdRound.2.effects ++ (holdRounds n c.holdRound.1).2) := rfl

/-- The coordinator's thread gets from one state to another while nobody else does anything. -/
def Leads : Coordinator ε → Coordinator ε → Prop :=
  Relation.ReflTransGen fun before after => before.advance.1 = after

/-- The thread works until its round is over. -/
theorem leads_steps (n : Nat) {c : Coordinator ε} {thread : Thread ε}
    (working : c.phase = .working thread) :
    Leads c { c with
      course := (Course.steps n (c.course, thread)).1
      phase := .working (Course.steps n (c.course, thread)).2 } := by
  induction n generalizing c thread with
  | zero =>
    cases c
    cases working
    exact .refl
  | succ n ih =>
    rw [Course.steps]
    split
    · cases c
      cases working
      exact .refl
    · rename_i going
      have next : c.advance.1 = { c with
          course := (Course.step (c.course, thread)).1
          phase := .working (Course.step (c.course, thread)).2 } := by
        rw [advance, working]
        exact congrArg Prod.fst (if_neg going)
      exact .head next (ih rfl)

/-- The thread holds a round and looks at what it has reported. -/
theorem leads_holdRound {c : Coordinator ε}
    (begins : c.advance.1 = { c with phase := .working (.ofScript (.round .done)) }) :
    Leads c c.holdRound.1 := by
  refine .head begins (.trans
    (leads_steps (Course.work (c.course, .ofScript (.round .done))) rfl) (.single ?_))
  have last : (Course.finish (c.course, Thread.ofScript (.round .done))).2.stack = [] :=
    Course.finish_stack _
  have next : ∀ course, (advance { c with
      course, phase := .working (Course.finish (c.course, .ofScript (.round .done))).2 }).1 =
      { c with
        course, phase := phaseAfter (Course.finish (c.course, .ofScript (.round .done))).2 } :=
    fun course => congrArg Prod.fst (if_pos (List.isEmpty_iff.2 last))
  exact next _

theorem leads_holdRounds (n : Nat) {c : Coordinator ε}
    (begins : c.advance.1 = { c with phase := .working (.ofScript (.round .done)) }) :
    Leads c (holdRounds n c).1 := by
  induction n generalizing c with
  | zero => exact .refl
  | succ n ih =>
    have held := leads_holdRound begins
    have phase : c.holdRound.1.phase = phaseAfter c.holdRound.2 := rfl
    rw [holdRounds_succ, phase]
    rcases phaseAfter_cases c.holdRound.2 with rests | ⟨-, -, -, closes⟩
    · rw [rests]
      simp only
      split
      · exact held
      · apply held.trans (ih _)
        rw [advance, phase, rests]
    · rw [closes]
      exact held.trans (.head rfl (.single rfl))

/-- What happens in a time in which nobody else does anything is what the thread does, unless that
is only to go on waiting. -/
theorem leads_elapse (c : Coordinator ε) (time : Span) :
    Leads c (c.elapse time).1 ∨
      ∃ left rest, c.phase = .grace left ∧ (c.elapse time).1 = { c with phase := .grace rest } := by
  unfold elapse
  cases phase : c.phase with
  | grace left =>
    simp only
    split
    · exact .inl (leads_holdRounds _ (by rw [advance, phase]))
    · exact .inr ⟨left, _, rfl, rfl⟩
  | resting => exact .inl (leads_holdRounds _ (by rw [advance, phase]))
  | _ => exact .inl .refl

end Coordinator

end Telematics.Shutdown
