/-
# Telematics.Proofs.Shutdown.Assembly -- everybody at work at once

An assembly is everybody who does something with one registry: those outside,
the coordinator, and within them the receivers that are told.  Anybody may come
at any time with a script of their own, and the members take their steps in any
order, so rounds overlap and nest in every way.  A script says beforehand what is
done; whoever decides as they go along does what some script says.  Nobody decides
in which order the entries of the registry stand: that may change at any time, so
each round may find them in an order of its own.

The history keeps what each step did; the moment of a happening is its place
there.  It is only written, never read, by the steps themselves:

* the registry follows from the history (`registry_step`), and so do the rounds
  that a member holds (`rounds_step`) and who has been told (`told_step`);
* what holds at the beginning and is kept when somebody comes, when the entries
  are put in another order and when a member takes a step holds after every run
  (`run_induction`);
* a member that is alone takes the steps of `Course.steps` (`run_alone`).
-/
import Telematics.Proofs.Shutdown.Arrangement
import Telematics.Shutdown.Course

namespace Telematics.Shutdown

set_option autoImplicit false

variable {ε : Type}

/-- What a step did. -/
inductive Happening (ε : Type) where
  | registered (id : Identity) (receiver : Script ε)
  /-- A participant's part was ended in some way, if it had one. -/
  | finished (id : Identity) (final : Status)
  | marked (calls : List (Call (Script ε))) (blocked : Option Nat)
  /-- The round that had marked at the moment `since` told somebody. -/
  | told (since : Nat) (call : Call (Script ε))
  /-- The round that had marked at the moment `since` was over. -/
  | reported (since : Nat) (report : Report)
  | nothing

/-- Somebody with a thread. -/
structure Member (ε : Type) where
  thread : Thread ε
  /-- The moments at which the rounds of the thread have marked, the innermost first. -/
  since : List Nat

/-- Everybody who does something with a registry. -/
structure Assembly (ε : Type) where
  course : Course ε
  members : List (Member ε)
  history : List (Happening ε)

/-- What happens next. -/
inductive Choice (ε : Type) where
  /-- Somebody comes who will follow a script. -/
  | enter (script : Script ε)
  /-- The entries of the registry come to stand in the order of a key. -/
  | arrange (key : Identity → Nat)
  /-- The member with this number takes a step. -/
  | turn (number : Nat)

/-- What the next action of a script is going to do. -/
def Course.nextOf (course : Course ε) : Script ε → Happening ε
  | .register id receiver _ => .registered id receiver
  | .markReady id _ => .finished id .shutdownCompleted
  | .withdraw id _ => .finished id .unsubscribed
  | .round _ =>
    .marked (course.registry.mark course.plan).calls (course.registry.mark course.plan).blocked
  | _ => .nothing

/-- What the next step of a member is going to do. -/
def Member.next (m : Member ε) (course : Course ε) : Happening ε :=
  match m.thread.stack with
  | [] => .nothing
  | .acting _ script :: _ => course.nextOf script
  | .notifying round :: _ =>
    match round.pending with
    | call :: _ => .told (m.since.headD 0) call
    | [] =>
      .reported (m.since.headD 0)
        ⟨round.notified, round.blocked, course.registry.isComplete course.plan⟩

def rounds (stack : List (Activity ε)) : List (Round ε) :=
  stack.filterMap fun
    | .notifying round => some round
    | .acting _ _ => none

namespace Happening

def registryAfter (plan : Plan) (r : Registry (Script ε)) : Happening ε → Registry (Script ε)
  | .registered id receiver => (r.register id (some receiver)).1
  | .finished id final => (r.finish id final).1
  | .marked _ _ => (r.mark plan).registry
  | _ => r

/-- The rounds of a member after a happening of its own. -/
def roundsAfter (rounds : List (Round ε)) : Happening ε → List (Round ε)
  | .marked calls blocked => ⟨calls.map Call.id, calls, blocked⟩ :: rounds
  | .told _ _ => rounds.modifyHead fun round => { round with pending := round.pending.tail }
  | .reported _ _ => rounds.tail
  | _ => rounds

/-- The moments at which the rounds of a member have marked, after a happening of its own at the
moment `now`. -/
def sinceAfter (now : Nat) (since : List Nat) : Happening ε → List Nat
  | .marked _ _ => now :: since
  | .reported _ _ => since.tail
  | _ => since

/-- Who was told. -/
def whom : Happening ε → List Identity
  | .told _ call => [call.id]
  | _ => []

end Happening

namespace Assembly

/-- Nobody is there, and nothing has happened. -/
def start (plan : Plan) : Assembly ε := ⟨.start plan, [], []⟩

/-- Somebody comes who will follow a script. -/
def enter (a : Assembly ε) (script : Script ε) : Assembly ε :=
  { a with members := a.members ++ [⟨.ofScript script, []⟩] }

/-- The entries of the registry come to stand in the order of a key. -/
def arrange (a : Assembly ε) (key : Identity → Nat) : Assembly ε :=
  { a with course := { a.course with registry := a.course.registry.arrange key } }

def turn (a : Assembly ε) (number : Nat) (m : Member ε) : Assembly ε :=
  let (course, thread) := Course.step (a.course, m.thread)
  let happening := m.next a.course
  ⟨course, a.members.set number ⟨thread, happening.sinceAfter a.history.length m.since⟩,
    a.history ++ [happening]⟩

/-- What a choice leads to. -/
def take (a : Assembly ε) : Choice ε → Assembly ε
  | .enter script => a.enter script
  | .arrange key => a.arrange key
  | .turn number =>
    match a.members[number]? with
    | some m => a.turn number m
    | none => a

/-- What a number of choices lead to. -/
def run (a : Assembly ε) (choices : List (Choice ε)) : Assembly ε :=
  choices.foldl take a

/-- What the next step of a member is going to do, if there is such a member. -/
def next? (a : Assembly ε) (number : Nat) : Option (Happening ε) :=
  (a.members[number]?).map (·.next a.course)

end Assembly

/-! ## What a step does to the registry -/

namespace Course

@[simp] theorem record_plan (who : Option Nat) (outcome : Outcome) (s : Course ε × Thread ε) :
    (record who outcome s).1.plan = s.1.plan := by
  cases who <;> rfl

@[simp] theorem record_registry (who : Option Nat) (outcome : Outcome)
    (s : Course ε × Thread ε) : (record who outcome s).1.registry = s.1.registry := by
  cases who <;> rfl

@[simp] theorem record_stack (who : Option Nat) (outcome : Outcome) (s : Course ε × Thread ε) :
    (record who outcome s).2.stack = s.2.stack := by
  cases who <;> rfl

@[simp] theorem record_ids (who : Option Nat) (outcome : Outcome) (s : Course ε × Thread ε) :
    (record who outcome s).1.calls.map CallRecord.id = s.1.calls.map CallRecord.id := by
  cases who with
  | none => rfl
  | some i =>
    show (s.1.calls.modify i _).map CallRecord.id = s.1.calls.map CallRecord.id
    apply List.ext_getElem?
    intro n
    rw [List.getElem?_map, List.getElem?_map, List.getElem?_modify]
    cases s.1.calls[n]? with
    | none => rfl
    | some c => by_cases here : i = n <;> simp [here]

@[simp] theorem operate_plan (result : Registry (Script ε) × Bool × List Notice)
    (s : Course ε × Thread ε) : (operate result s).1.plan = s.1.plan := by
  simp [operate]

@[simp] theorem operate_registry (result : Registry (Script ε) × Bool × List Notice)
    (s : Course ε × Thread ε) : (operate result s).1.registry = result.1 := by
  simp [operate]

@[simp] theorem operate_stack (result : Registry (Script ε) × Bool × List Notice)
    (s : Course ε × Thread ε) : (operate result s).2.stack = s.2.stack := by
  simp [operate]

@[simp] theorem operate_ids (result : Registry (Script ε) × Bool × List Notice)
    (s : Course ε × Thread ε) :
    (operate result s).1.calls.map CallRecord.id = s.1.calls.map CallRecord.id := by
  simp [operate]

theorem step_of_nil (course : Course ε) {thread : Thread ε} (top : thread.stack = []) :
    step (course, thread) = (course, thread) := by
  simp only [step, top]

theorem step_of_acting (course : Course ε) {thread : Thread ε} {who : Option Nat}
    {script : Script ε} {stack : List (Activity ε)}
    (top : thread.stack = .acting who script :: stack) :
    step (course, thread) = act course thread who stack script := by
  simp only [step, top]

theorem step_of_notifying (course : Course ε) {thread : Thread ε} {round : Round ε}
    {stack : List (Activity ε)} (top : thread.stack = .notifying round :: stack) :
    step (course, thread) = notify course thread round stack := by
  simp only [step, top]

@[simp] theorem step_plan (s : Course ε × Thread ε) : (step s).1.plan = s.1.plan := by
  unfold step
  split
  · rfl
  · rename_i script _ _
    cases script <;> simp [act]
  · unfold notify
    split <;> simp

end Course

/-- The registry follows from what a step does. -/
theorem registry_step (course : Course ε) (m : Member ε) :
    (Course.step (course, m.thread)).1.registry =
      (m.next course).registryAfter course.plan course.registry := by
  unfold Member.next
  cases top : m.thread.stack with
  | nil =>
    rw [Course.step_of_nil course top]
    rfl
  | cons activity stack =>
    cases activity with
    | acting who script =>
      rw [Course.step_of_acting course top]
      cases script <;> simp [Course.act, Course.nextOf, Happening.registryAfter, Registry.register,
        Registry.markReady, Registry.withdraw]
    | notifying round =>
      rw [Course.step_of_notifying course top]
      cases pending : round.pending <;> simp [Course.notify, pending, Happening.registryAfter]

/-- The rounds that a member holds follow from what its step does. -/
theorem rounds_step (course : Course ε) (m : Member ε) :
    rounds (Course.step (course, m.thread)).2.stack =
      (m.next course).roundsAfter (rounds m.thread.stack) := by
  unfold Member.next
  cases top : m.thread.stack with
  | nil =>
    rw [Course.step_of_nil course top, top]
    rfl
  | cons activity stack =>
    cases activity with
    | acting who script =>
      rw [Course.step_of_acting course top]
      cases script <;> simp [Course.act, Course.nextOf, Happening.roundsAfter, rounds]
    | notifying round =>
      rw [Course.step_of_notifying course top]
      cases pending : round.pending <;>
        simp [Course.notify, pending, Happening.roundsAfter, rounds]

/-- Who has been told follows from what the steps do. -/
theorem told_step (course : Course ε) (m : Member ε) :
    (Course.step (course, m.thread)).1.calls.map CallRecord.id =
      course.calls.map CallRecord.id ++ (m.next course).whom := by
  unfold Member.next
  cases top : m.thread.stack with
  | nil =>
    rw [Course.step_of_nil course top]
    simp [Happening.whom]
  | cons activity stack =>
    cases activity with
    | acting who script =>
      rw [Course.step_of_acting course top]
      cases script <;> simp [Course.act, Course.nextOf, Happening.whom]
    | notifying round =>
      rw [Course.step_of_notifying course top]
      cases pending : round.pending <;> simp [Course.notify, pending, Happening.whom]

/-! ## Runs -/

namespace Assembly

@[simp] theorem run_nil (a : Assembly ε) : a.run [] = a := rfl

@[simp] theorem run_cons (a : Assembly ε) (choice : Choice ε) (choices : List (Choice ε)) :
    a.run (choice :: choices) = (a.take choice).run choices := rfl

/-- What is kept when somebody comes, when the entries are put in another order and when a member
takes a step is kept by every run. -/
theorem run_induction {P : Assembly ε → Prop}
    (enter : ∀ a script, P a → P (a.enter script))
    (arrange : ∀ a key, P a → P (a.arrange key))
    (turn : ∀ a number m, a.members[number]? = some m → P a → P (a.turn number m))
    {a : Assembly ε} (first : P a) (choices : List (Choice ε)) : P (a.run choices) := by
  induction choices generalizing a with
  | nil => exact first
  | cons choice choices ih =>
    apply ih
    cases choice with
    | enter script => exact enter a script first
    | arrange key => exact arrange a key first
    | turn number =>
      cases found : a.members[number]? with
      | some m =>
        simp only [take, found]
        exact turn a number m found first
      | none =>
        simp only [take, found]
        exact first

theorem plan_run (plan : Plan) (choices : List (Choice ε)) :
    ((start plan).run choices).course.plan = plan := by
  apply run_induction (P := fun a => a.course.plan = plan)
  · intro a script same
    exact same
  · intro a key same
    exact same
  · intro a number m found same
    exact (Course.step_plan (a.course, m.thread)).trans same
  · rfl

/-- A member that is alone does what the steps of its thread do. -/
theorem run_alone (n : Nat) (course : Course ε) (m : Member ε) (history : List (Happening ε)) :
    ∃ since more, (Assembly.mk course [m] history).run (List.replicate n (.turn 0)) =
      ⟨(Course.steps n (course, m.thread)).1, [⟨(Course.steps n (course, m.thread)).2, since⟩],
        history ++ more⟩ := by
  induction n generalizing course m history with
  | zero => exact ⟨m.since, [], by rw [List.append_nil]; rfl⟩
  | succ n ih =>
    have next : Course.steps (n + 1) (course, m.thread) =
        Course.steps n (Course.step (course, m.thread)) := by
      rw [Course.steps]
      split
      · rename_i last
        have none : m.thread.stack = [] := List.isEmpty_iff.1 last
        have still : Course.step (course, m.thread) = (course, m.thread) := by
          simp [Course.step, none]
        rw [still]
        clear ih still
        induction n with
        | zero => rfl
        | succ n _ => simp [Course.steps, none]
      · rfl
    rw [List.replicate_succ, run_cons, next]
    obtain ⟨since, more, same⟩ := ih (Course.step (course, m.thread)).1
      ⟨(Course.step (course, m.thread)).2, (m.next course).sinceAfter history.length m.since⟩
      (history ++ [m.next course])
    exact ⟨since, m.next course :: more, same.trans (by rw [List.append_assoc]; rfl)⟩

end Assembly

end Telematics.Shutdown
