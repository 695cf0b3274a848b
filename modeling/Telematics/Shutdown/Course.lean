/-
# Telematics.Shutdown.Course -- the course of a shutdown, step by step

Everybody who does something with the registry is a thread: those outside, the
coordinator, and within them the receivers that are told.  A thread works off a
stack.  On top lies what it does at the moment: it follows a script, or it is in
a round and has receivers still to tell.  Telling a receiver puts the receiver's
script on the stack, and holding a round from a script puts the round there, so
rounds nest.

`step` is one step of a thread and touches the registry once: an operation, the
marking at the beginning of a round, or the look at whether the shutdown is
complete at its end.  Threads that take steps in turn are rounds that overlap.

Every step leaves less to be done (`work_step_lt`), so a thread that is alone
comes to its end (`finish_stack`).
-/
import Telematics.Shutdown.Work

namespace Telematics.Shutdown

set_option autoImplicit false

/-- What a round did. -/
structure Report where
  /-- Whom it told, in order. -/
  notified : List Identity
  /-- The stage at which it stopped. -/
  blocked : Option Nat
  /-- Whether the shutdown was complete at its end. -/
  complete : Bool
  deriving Repr, DecidableEq

/-- What an action led to. -/
inductive Outcome where
  /-- The operation was done, or not. -/
  | flag (done : Bool)
  | status (seen : Option Status)
  /-- What the round did. -/
  | report (report : Report)
  /-- Something was done to the surroundings. -/
  | performed
  | nothing
  deriving Repr, DecidableEq

/-- A receiver that was told, and what its actions led to. -/
structure CallRecord where
  id : Identity
  outcomes : List Outcome
  deriving Repr, DecidableEq

/-- A round that is being held. -/
structure Round (ε : Type) where
  /-- Everybody whom it has marked. -/
  notified : List Identity
  /-- Whom it has still to tell. -/
  pending : List (Call (Script ε))
  blocked : Option Nat

/-- What a thread does. -/
inductive Activity (ε : Type) where
  /-- It follows a script, that of the receiver in the given record or its own. -/
  | acting (record : Option Nat) (rest : Script ε)
  /-- It holds a round. -/
  | notifying (round : Round ε)

/-- Somebody who does something with the registry. -/
structure Thread (ε : Type) where
  /-- What it does, the innermost first. -/
  stack : List (Activity ε)
  /-- What the actions of its own script have led to. -/
  outcomes : List Outcome
  /-- What it should know. -/
  notices : List Notice
  /-- What it has done to the surroundings. -/
  effects : List ε

/-- The state that all threads share. -/
structure Course (ε : Type) where
  plan : Plan
  registry : Registry (Script ε)
  /-- The receivers that were told, in order. -/
  calls : List CallRecord

def Thread.ofScript {ε : Type} (script : Script ε) : Thread ε :=
  ⟨[.acting none script], [], [], []⟩

namespace Course

variable {ε : Type}

/-- The course of a shutdown before anything has happened. -/
def start (plan : Plan) : Course ε := ⟨plan, .empty, []⟩

/-- Keeps what an action led to where it belongs. -/
def record (owner : Option Nat) (outcome : Outcome) (s : Course ε × Thread ε) :
    Course ε × Thread ε :=
  match owner with
  | some i =>
    ({ s.1 with
        calls := s.1.calls.modify i fun c => { c with outcomes := c.outcomes ++ [outcome] } },
     s.2)
  | none => (s.1, { s.2 with outcomes := s.2.outcomes ++ [outcome] })

/-- Whose script the top of a stack is. -/
def owner : List (Activity ε) → Option Nat
  | .acting owner _ :: _ => owner
  | _ => none

def operate (result : Registry (Script ε) × Bool × List Notice) (s : Course ε × Thread ε) :
    Course ε × Thread ε :=
  record (owner s.2.stack) (.flag result.2.1)
    ({ s.1 with registry := result.1 }, { s.2 with notices := s.2.notices ++ result.2.2 })

/-- The next action of a script; `stack` is what lies below it. -/
def act (course : Course ε) (thread : Thread ε) (who : Option Nat) (stack : List (Activity ε)) :
    Script ε → Course ε × Thread ε
  | .done => (course, { thread with stack })
  | .markReady id next =>
    operate (course.registry.markReady id)
      (course, { thread with stack := .acting who next :: stack })
  | .withdraw id next =>
    operate (course.registry.withdraw id)
      (course, { thread with stack := .acting who next :: stack })
  | .observe id next =>
    record who (.status (course.registry.status? id))
      (course, { thread with stack := .acting who next :: stack })
  | .register id receiver next =>
    operate (course.registry.register id (some receiver))
      (course, { thread with stack := .acting who next :: stack })
  | .registerNobody id next =>
    operate (course.registry.register id none)
      (course, { thread with stack := .acting who next :: stack })
  | .round next =>
    let marking := course.registry.mark course.plan
    ({ course with registry := marking.registry },
     { thread with
        stack := .notifying ⟨marking.calls.map Call.id, marking.calls, marking.blocked⟩ ::
          .acting who next :: stack })
  | .perform effect next =>
    record who .performed
      (course, { thread with
        stack := .acting who next :: stack
        effects := thread.effects ++ [effect] })
  | .idle next => record who .nothing (course, { thread with stack := .acting who next :: stack })

/-- Tells the next receiver of a round, or ends the round if there is none. -/
def notify (course : Course ε) (thread : Thread ε) (round : Round ε)
    (stack : List (Activity ε)) : Course ε × Thread ε :=
  match round.pending with
  | call :: pending =>
    ({ course with calls := course.calls ++ [⟨call.id, []⟩] },
     { thread with
        stack := .acting (some course.calls.length) call.receiver ::
          .notifying { round with pending } :: stack })
  | [] =>
    record (owner stack)
      (.report ⟨round.notified, round.blocked, course.registry.isComplete course.plan⟩)
      (course, { thread with stack })

def step (s : Course ε × Thread ε) : Course ε × Thread ε :=
  match s.2.stack with
  | [] => s
  | .acting who script :: stack => act s.1 s.2 who stack script
  | .notifying round :: stack => notify s.1 s.2 round stack

/-! ## The work that is left -/

/-- The steps that what a thread does may still take. -/
def activityWork : Activity ε → Nat
  | .acting _ script => script.size
  | .notifying round => callsWork round.pending + 1

def stackWork (stack : List (Activity ε)) : Nat := total activityWork stack

/-- The steps that a thread may take until it comes to its end, if it is alone. -/
def work (s : Course ε × Thread ε) : Nat :=
  s.1.registry.work + stackWork s.2.stack

/-- A number of steps, or fewer if the thread comes to its end before. -/
def steps : Nat → Course ε × Thread ε → Course ε × Thread ε
  | 0, s => s
  | n + 1, s => if s.2.stack.isEmpty then s else steps n (step s)

/-- All the steps of a thread that is alone. -/
def finish (s : Course ε × Thread ε) : Course ε × Thread ε :=
  steps (work s) s

def follow (course : Course ε) (script : Script ε) : Course ε × Thread ε :=
  finish (course, .ofScript script)

@[simp] theorem stackWork_cons (a : Activity ε) (stack : List (Activity ε)) :
    stackWork (a :: stack) = activityWork a + stackWork stack := rfl

@[simp] theorem work_record (who : Option Nat) (outcome : Outcome) (s : Course ε × Thread ε) :
    work (record who outcome s) = work s := by
  cases who <;> rfl

theorem work_operate (result : Registry (Script ε) × Bool × List Notice)
    (s : Course ε × Thread ε) :
    work (operate result s) = result.1.work + stackWork s.2.stack := by
  unfold operate
  rw [work_record]
  rfl

theorem work_act_lt (course : Course ε) (thread : Thread ε) (who : Option Nat)
    (stack : List (Activity ε)) (script : Script ε) :
    work (act course thread who stack script) <
      course.registry.work + (script.size + stackWork stack) := by
  cases script with
  | done => simp [act, work, Script.size]
  | markReady id next =>
    have h := course.registry.work_finish_le id
      (show Status.shutdownCompleted ≠ .subscribed by decide)
    simp only [act, work_operate, stackWork_cons, activityWork, Script.size, Registry.markReady]
    omega
  | withdraw id next =>
    have h := course.registry.work_finish_le id
      (show Status.unsubscribed ≠ .subscribed by decide)
    simp only [act, work_operate, stackWork_cons, activityWork, Script.size, Registry.withdraw]
    omega
  | observe id next =>
    unfold act
    rw [work_record]
    simp only [work, stackWork_cons, activityWork, Script.size]
    omega
  | register id receiver next =>
    have h := course.registry.work_register_le id receiver
    simp only [act, work_operate, stackWork_cons, activityWork, Script.size]
    omega
  | registerNobody id next =>
    simp only [act, work_operate, stackWork_cons, activityWork, Script.size, Registry.register]
    omega
  | round next =>
    have h := course.registry.work_mark_le course.plan
    simp only [act, work, stackWork_cons, activityWork, Script.size]
    omega
  | perform effect next =>
    unfold act
    rw [work_record]
    simp only [work, stackWork_cons, activityWork, Script.size]
    omega
  | idle next =>
    unfold act
    rw [work_record]
    simp only [work, stackWork_cons, activityWork, Script.size]
    omega

/-- Every step of a thread leaves less to be done. -/
theorem work_step_lt (s : Course ε × Thread ε) (h : s.2.stack ≠ []) : work (step s) < work s := by
  obtain ⟨course, thread⟩ := s
  unfold step
  split
  · contradiction
  · rename_i who script stack hs
    have := work_act_lt course thread who stack script
    simp only at hs
    simpa only [work, hs, stackWork_cons, activityWork] using this
  · rename_i round stack hs
    simp only at hs
    unfold notify
    split
    · rename_i call pending hp
      simp only [work, hs, stackWork_cons, activityWork, hp, callsWork_cons, Call.work]
      omega
    · rw [work_record]
      simp only [work, hs, stackWork_cons, activityWork]
      omega

theorem steps_stack {n : Nat} {s : Course ε × Thread ε} (h : work s ≤ n) :
    (steps n s).2.stack = [] := by
  induction n generalizing s with
  | zero =>
    unfold steps
    by_cases hs : s.2.stack = []
    · exact hs
    · have := work_step_lt s hs
      omega
  | succ n ih =>
    unfold steps
    split
    · rename_i hs
      exact List.isEmpty_iff.1 hs
    · rename_i hs
      have hne : s.2.stack ≠ [] := fun h => hs (List.isEmpty_iff.2 h)
      have := work_step_lt s hne
      exact ih (by omega)

/-- A thread that is alone comes to its end. -/
theorem finish_stack (s : Course ε × Thread ε) : (finish s).2.stack = [] :=
  steps_stack (Nat.le_refl _)

end Course

end Telematics.Shutdown
