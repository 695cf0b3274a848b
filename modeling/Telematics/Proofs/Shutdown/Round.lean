/-
# Telematics.Proofs.Shutdown.Round -- a round that is held alone

`finish` lets a thread take all its steps while nobody else does anything.  Its
budget is of no consequence: it comes to the same as the next step and what
`finish` makes of that (`finish_eq`), so what every step keeps holds in the end
(`finish_induction`).

A round that is held alone reports whom it has marked and where it stopped, and
whether the shutdown is complete when all of them have been told, whatever these
do (`outcomes_of_round`).  One that marks nobody is over at once
(`follow_round_of_nobody`).
-/
import Telematics.Proofs.Shutdown.Completion

namespace Telematics.Shutdown

set_option autoImplicit false

variable {ε : Type}

namespace Course

/-! ## To the end of a thread -/

theorem steps_of_nil (n : Nat) {s : Course ε × Thread ε} (empty : s.2.stack = []) :
    steps n s = s := by
  cases n with
  | zero => rfl
  | succ n => simp [steps, empty]

theorem steps_succ (n : Nat) {s : Course ε × Thread ε} (going : s.2.stack ≠ []) :
    steps (n + 1) s = steps n (step s) := by
  have more : s.2.stack.isEmpty = false := by simpa using going
  simp [steps, more]

/-- More steps than there are to be taken make no difference. -/
theorem steps_eq_steps {m n : Nat} {s : Course ε × Thread ε} (enough : work s ≤ m)
    (also : work s ≤ n) : steps m s = steps n s := by
  induction m generalizing n s with
  | zero =>
    have empty : s.2.stack = [] := by
      by_contra going
      have := work_step_lt s going
      omega
    rw [steps_of_nil 0 empty, steps_of_nil n empty]
  | succ m ih =>
    by_cases empty : s.2.stack = []
    · rw [steps_of_nil _ empty, steps_of_nil _ empty]
    · have less := work_step_lt s empty
      cases n with
      | zero => omega
      | succ n =>
        rw [steps_succ m empty, steps_succ n empty]
        exact ih (by omega) (by omega)

theorem finish_of_nil {s : Course ε × Thread ε} (empty : s.2.stack = []) : finish s = s :=
  steps_of_nil _ empty

/-- The end is that of the next step. -/
theorem finish_eq {s : Course ε × Thread ε} (going : s.2.stack ≠ []) :
    finish s = finish (step s) := by
  have less := work_step_lt s going
  obtain ⟨n, budget⟩ : ∃ n, work s = n + 1 := ⟨work s - 1, by omega⟩
  rw [finish, budget, steps_succ n going]
  exact steps_eq_steps (by omega) (Nat.le_refl _)

/-- What every step keeps holds in the end. -/
theorem finish_induction {P : Course ε × Thread ε → Prop}
    (next : ∀ s, s.2.stack ≠ [] → P s → P (step s)) {s : Course ε × Thread ε} (first : P s) :
    P (finish s) := by
  have each : ∀ n s, P s → P (steps n s) := by
    intro n
    induction n with
    | zero => exact fun _ first => first
    | succ n ih =>
      intro s first
      by_cases empty : s.2.stack = []
      · rwa [steps_of_nil _ empty]
      · rw [steps_succ n empty]
        exact ih _ (next s empty first)
  exact each _ s first

/-! ## What a round reports -/

/-- How far a thread is that holds one round and does nothing else, `notified` being those whom the
round has marked. -/
inductive Holding (plan : Plan) (notified : List Identity) (blocked : Option Nat)
    (s : Course ε × Thread ε) : Prop where
  | telling {inner : List (Activity ε)} {pending : List (Call (Script ε))} (nested : Nested inner)
      (planned : s.1.plan = plan)
      (stack : s.2.stack = inner ++ [.notifying ⟨notified, pending, blocked⟩, .acting none .done])
      (outcomes : s.2.outcomes = [])
  | closing (stack : s.2.stack = [.acting none .done] ∨ s.2.stack = [])
      (outcomes : s.2.outcomes =
        [.report ⟨notified, blocked, s.1.registry.isComplete plan⟩])

theorem Holding.step {plan : Plan} {notified : List Identity} {blocked : Option Nat}
    {s : Course ε × Thread ε} (holding : Holding plan notified blocked s)
    (going : s.2.stack ≠ []) : Holding plan notified blocked (step s) := by
  obtain ⟨course, thread⟩ := s
  cases holding with
  | @telling inner pending nested planned stack outcomes =>
    have planned := (step_plan (course, thread)).trans planned
    cases inner with
    | cons top inner =>
      -- What those do who have been told lies above the round and leaves no outcome.
      obtain ⟨same, next, nested, after⟩ := nested.step course stack
      exact .telling nested planned after (same.trans outcomes)
    | nil =>
      rw [step_of_notifying course stack] at planned ⊢
      cases pending with
      | cons call calls => exact .telling (.acting .nil) planned rfl outcomes
      | nil =>
        have empty : thread.outcomes = [] := outcomes
        cases planned
        refine .closing (.inl rfl) ?_
        simp [notify, record, owner, empty]
  | closing stack outcomes =>
    rcases stack with last | empty
    · rw [step_of_acting course last]
      exact .closing (.inr rfl) outcomes
    · exact absurd empty going

variable (course : Course ε)

/-- **What a round reports**: whom it has marked, where it stopped, and whether the shutdown is
complete when all have been told. -/
theorem outcomes_of_round :
    (course.follow (.round .done)).2.outcomes =
      [.report ⟨(course.registry.mark course.plan).calls.map Call.id,
        (course.registry.mark course.plan).blocked,
        (course.follow (.round .done)).1.registry.isComplete course.plan⟩] := by
  have opened : Holding course.plan ((course.registry.mark course.plan).calls.map Call.id)
      (course.registry.mark course.plan).blocked
      (step (course, Thread.ofScript (.round .done))) :=
    .telling .nil rfl rfl rfl
  have closed := finish_induction (fun _ going holding => Holding.step holding going) opened
  have empty := finish_stack (step (course, Thread.ofScript (.round .done)))
  rw [follow, finish_eq (List.cons_ne_nil _ _)]
  cases closed with
  | telling nested planned stack outcomes => simp [empty] at stack
  | closing stack outcomes => exact outcomes

/-- A round that marks nobody is over at once. -/
theorem follow_round_of_nobody (nobody : (course.registry.mark course.plan).calls = []) :
    course.follow (.round .done) =
      ({ course with registry := (course.registry.mark course.plan).registry },
        ⟨[], [.report ⟨[], (course.registry.mark course.plan).blocked,
          (course.registry.mark course.plan).registry.isComplete course.plan⟩], [], []⟩) := by
  rw [follow, finish_eq (List.cons_ne_nil _ _)]
  have marked : step (course, Thread.ofScript (.round .done)) =
      ({ course with registry := (course.registry.mark course.plan).registry },
        ⟨[.notifying ⟨[], [], (course.registry.mark course.plan).blocked⟩, .acting none .done],
          [], [], []⟩) := by
    have top : (Thread.ofScript (.round .done) : Thread ε).stack = [.acting none (.round .done)] :=
      rfl
    rw [step_of_acting course top, act]
    simp only [nobody]
    rfl
  rw [marked, finish_eq (List.cons_ne_nil _ _)]
  exact (finish_eq (List.cons_ne_nil _ _)).trans (finish_of_nil rfl)

end Course

end Telematics.Shutdown
