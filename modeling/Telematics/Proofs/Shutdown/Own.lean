/-
# Telematics.Proofs.Shutdown.Own -- receivers that see to their own entry

A receiver minds its own business if it ends no part but its own, registers
nobody and holds no round (`Script.Minds`).  What such a receiver leaves behind
is then a matter of its own entry alone: the status there goes from notified to
what the script leaves it in (`Script.leaves`), and every other entry stays as
it is (`finish_of_acting`).

So it does not matter in which order they are told.  A round that tells only
such receivers changes just the entries that were subscribed and that marking
goes over, each in its own way (`registry_held`), and tells just those whom it
has marked (`told_held`).
-/
import Telematics.Proofs.Shutdown.Effect

namespace Telematics.Shutdown

set_option autoImplicit false

variable {ε : Type}

/-! ## What a receiver leaves behind -/

namespace Script

/-- The script changes no other part of the registry than that of `id`. -/
def Minds (id : Identity) : Script ε → Prop
  | .done => True
  | .markReady who next | .withdraw who next => who = id ∧ next.Minds id
  | .observe _ next | .registerNobody _ next | .perform _ next | .idle next => next.Minds id
  | .register _ _ _ | .round _ => False

/-- The status in which a script leaves the participant whose part it changes. -/
def leaves (status : Status) : Script ε → Status
  | .done => status
  | .markReady _ next => next.leaves (status.advance .shutdownCompleted)
  | .withdraw _ next => next.leaves (status.advance .unsubscribed)
  | .observe _ next | .registerNobody _ next | .perform _ next | .idle next
  | .register _ _ next | .round next => next.leaves status

end Script

namespace Registry

variable {ρ : Type}

theorem mapStatus_congr {r : Registry ρ} {f g : Entry ρ → Status}
    (same : ∀ e ∈ r.entries, f e = g e) : r.mapStatus f = r.mapStatus g := by
  apply eq_of_entries
  apply List.map_congr_left
  intro e member
  rw [same e member]

/-- Just those are called who are subscribed and whom marking goes over. -/
theorem mem_calls_iff_reaches {r : Registry ρ} {plan : Plan} {id : Identity} :
    id ∈ (r.mark plan).calls.map Call.id ↔
      r.status? id = some .subscribed ∧ r.reaches plan id = true := by
  rw [mem_calls_iff, status?_mark]
  apply and_congr_right
  intro waits
  rw [waits, Option.map_some]
  by_cases reached : r.reaches plan id = true
  · simp [reached, Status.notify]
  · simp [reached]

/-- Who is called for an entry is its own receiver. -/
theorem find?_calls {r : Registry ρ} {e : Entry ρ} (member : e ∈ r.entries) (plan : Plan) :
    (r.mark plan).calls.find? (·.id = e.id) =
      if e.status = .subscribed ∧ r.reaches plan e.id = true then some (callOf e) else none := by
  have found : r.find? e.id = some e := find?_eq_some_iff.2 ⟨member, rfl⟩
  cases called : (r.mark plan).calls.find? (·.id = e.id) with
  | none =>
    rw [if_neg]
    rintro ⟨waits, reached⟩
    have own : r.status? e.id = some .subscribed := by rw [status?, found, Option.map_some, waits]
    obtain ⟨call, inside, same⟩ := List.mem_map.1 (mem_calls_iff_reaches.2 ⟨own, reached⟩)
    simpa [same] using List.find?_eq_none.1 called call inside
  | some call =>
    have inside := List.mem_of_find?_eq_some called
    have same : call.id = e.id := by simpa using List.find?_some called
    have entry := find?_of_mem_calls inside
    rw [same, found, Option.some_inj] at entry
    obtain ⟨-, reached⟩ := mem_calls_iff_reaches.1 (List.mem_map_of_mem (f := Call.id) inside)
    rw [same] at reached
    obtain ⟨id, receiver⟩ := call
    cases same
    rw [entry, if_pos ⟨rfl, reached⟩]
    rfl

/-- Ending a part is a matter of its entry alone, also if there is none. -/
theorem finish_eq (r : Registry ρ) (id : Identity) (final : Status) :
    (r.finish id final).1 =
      r.mapStatus fun e => if e.id = id then e.status.advance final else e.status := by
  unfold finish
  split
  · rfl
  · rename_i missing
    rw [Option.not_isSome_iff_eq_none, find?, List.find?_eq_none] at missing
    refine r.mapStatus_self.symm.trans (mapStatus_congr ?_)
    intro e member
    rw [if_neg (by simpa using missing e member)]

/-- The registry when a receiver has changed its own part. -/
def leaving (r : Registry (Script ε)) (id : Identity) (script : Script ε) : Registry (Script ε) :=
  r.mapStatus fun e => if e.id = id then script.leaves e.status else e.status

theorem leaving_finish (r : Registry (Script ε)) (id : Identity) (final : Status)
    {script next : Script ε}
    (ends : ∀ status, script.leaves status = next.leaves (status.advance final)) :
    ((r.finish id final).1).leaving id next = r.leaving id script := by
  rw [finish_eq, leaving, mapStatus_mapStatus]
  apply mapStatus_congr
  intro e _
  by_cases own : e.id = id
  · simp [own, ends]
  · simp [own]

/-- The registry when some receivers have changed their own parts. -/
def leavingAll (r : Registry (Script ε)) (calls : List (Call (Script ε))) : Registry (Script ε) :=
  r.mapStatus fun e =>
    match calls.find? (·.id = e.id) with
    | some call => call.receiver.leaves e.status
    | none => e.status

theorem leavingAll_leaving (r : Registry (Script ε)) {call : Call (Script ε)}
    {calls : List (Call (Script ε))} (other : call.id ∉ calls.map Call.id) :
    (r.leaving call.id call.receiver).leavingAll calls = r.leavingAll (call :: calls) := by
  rw [leaving, leavingAll, mapStatus_mapStatus]
  apply mapStatus_congr
  intro e _
  by_cases own : e.id = call.id
  · have missing : calls.find? (·.id = e.id) = none := by
      rw [List.find?_eq_none]
      intro call' member same
      exact other (List.mem_map.2 ⟨call', member, (of_decide_eq_true same).trans own⟩)
    rw [List.find?_cons_of_pos (by simp [own])]
    simp only [missing, if_pos own]
  · rw [List.find?_cons_of_neg (by simpa using Ne.symm own)]
    simp only [if_neg own]

theorem leaving_done (r : Registry (Script ε)) (id : Identity) : r.leaving id .done = r := by
  refine Eq.trans ?_ r.mapStatus_self
  apply mapStatus_congr
  intro e _
  exact ite_self _

end Registry

namespace Course

/-! ## One receiver -/

/-- A thread comes back to what lies below on its stack, and what has been done until then is what a
script does with its own entry. -/
def Returns (s : Course ε × Thread ε) (id : Identity) (script : Script ε)
    (below : List (Activity ε)) : Prop :=
  ∃ course thread, finish s = finish (course, thread) ∧
    course.registry = s.1.registry.leaving id script ∧
    course.calls.map CallRecord.id = s.1.calls.map CallRecord.id ∧ thread.stack = below

theorem Returns.of_step {s after : Course ε × Thread ε} {id : Identity} {script next : Script ε}
    {below : List (Activity ε)} (going : s.2.stack ≠ []) (steps : step s = after)
    (registry : after.1.registry.leaving id next = s.1.registry.leaving id script)
    (ids : after.1.calls.map CallRecord.id = s.1.calls.map CallRecord.id)
    (returns : Returns after id next below) : Returns s id script below := by
  subst steps
  obtain ⟨course, thread, same, changed, told, stack⟩ := returns
  exact ⟨course, thread, (finish_eq going).trans same, changed.trans registry, told.trans ids,
    stack⟩

/-- A receiver that minds its own business changes its own entry, and is done. -/
theorem returns_of_minds {id : Identity} {script : Script ε} (minds : script.Minds id)
    (course : Course ε) {thread : Thread ε} {i : Nat} {below : List (Activity ε)}
    (stack : thread.stack = .acting (some i) script :: below) :
    Returns (course, thread) id script below := by
  have going : thread.stack ≠ [] := by simp [stack]
  induction script generalizing course thread with
  | done =>
    have last : step (course, thread) = (course, { thread with stack := below }) :=
      step_of_acting course stack
    exact ⟨_, _, (finish_eq going).trans (congrArg finish last),
      (course.registry.leaving_done id).symm, rfl, rfl⟩
  | markReady who next ih | withdraw who next ih =>
    obtain ⟨rfl, minds⟩ := minds
    refine .of_step going (step_of_acting course stack) ?_ (operate_ids _ _)
      (ih minds _ rfl (List.cons_ne_nil _ _))
    rw [act, operate_registry]
    exact Registry.leaving_finish _ _ _ fun _ => rfl
  | observe who next ih | registerNobody who next ih | perform effect next ih | idle next ih =>
    refine .of_step going (step_of_acting course stack) ?_ ?_
      (ih minds _ rfl (List.cons_ne_nil _ _))
    · simp [act, Registry.register, Registry.leaving, Script.leaves]
    · simp [act]
  | register who receiver next _ _ => exact minds.elim
  | round next _ => exact minds.elim

/-! ## A round of them -/

/-- Telling some receivers that mind their own business changes their entries and no other. -/
theorem finish_of_notifying {notified : List Identity} {blocked : Option Nat}
    {pending : List (Call (Script ε))} (once : (pending.map Call.id).Nodup)
    (minds : ∀ call ∈ pending, call.receiver.Minds call.id) (course : Course ε) {thread : Thread ε}
    (stack : thread.stack = [.notifying ⟨notified, pending, blocked⟩, .acting none .done]) :
    (finish (course, thread)).1.registry = course.registry.leavingAll pending ∧
      (finish (course, thread)).1.calls.map CallRecord.id =
        course.calls.map CallRecord.id ++ pending.map Call.id := by
  -- The first receiver comes back to the round, and the others have entries of their own left.
  induction pending generalizing course thread with
  | nil =>
    have ends : ∃ outcomes, step (course, thread) =
        (course, { thread with stack := [.acting none .done], outcomes }) :=
      ⟨_, step_of_notifying course stack⟩
    obtain ⟨outcomes, ends⟩ := ends
    have last : step (course, { thread with stack := [.acting none .done], outcomes }) =
        (course, { thread with stack := [], outcomes }) := rfl
    rw [finish_eq (by simp [stack]), ends, finish_eq (List.cons_ne_nil _ _), last,
      finish_of_nil rfl]
    exact ⟨course.registry.mapStatus_self.symm, (List.append_nil _).symm⟩
  | cons call pending ih =>
    rw [List.map_cons, List.nodup_cons] at once
    rw [List.forall_mem_cons] at minds
    have telling : step (course, thread) =
        ({ course with calls := course.calls ++ [⟨call.id, []⟩] },
          { thread with stack := .acting (some course.calls.length) call.receiver ::
              [.notifying ⟨notified, pending, blocked⟩, .acting none .done] }) :=
      step_of_notifying course stack
    have returns := returns_of_minds minds.1
      { course with calls := course.calls ++ [⟨call.id, []⟩] }
      (rfl : { thread with stack := .acting (some course.calls.length) call.receiver ::
        [.notifying ⟨notified, pending, blocked⟩, .acting none .done] }.stack = _)
    obtain ⟨next, rest, same, changed, told, below⟩ := returns
    obtain ⟨registry, ids⟩ := ih once.2 minds.2 next below
    rw [finish_eq (by simp [stack]), telling, same, registry, ids, changed, told]
    refine ⟨Registry.leavingAll_leaving _ once.1, ?_⟩
    rw [List.map_append, List.append_assoc]
    rfl

variable (course : Course ε)

/-- The course after a round with which nobody else interferes. -/
def held : Course ε := (course.follow (.round .done)).1

/-- What a round with which nobody else interferes reports. -/
def report : Report :=
  ⟨(course.registry.mark course.plan).calls.map Call.id, (course.registry.mark course.plan).blocked,
    course.held.registry.isComplete course.plan⟩

/-- Whoever is subscribed and gone over by marking minds their own business. -/
def Minding : Prop :=
  ∀ e ∈ course.registry.entries, e.status = .subscribed →
    course.registry.reaches course.plan e.id = true → e.receiver.Minds e.id

variable {course}

theorem held_eq : ∃ thread : Thread ε,
    thread.stack = [.notifying ⟨(course.registry.mark course.plan).calls.map Call.id,
      (course.registry.mark course.plan).calls, (course.registry.mark course.plan).blocked⟩,
      .acting none .done] ∧
    course.held = (finish
      ({ course with registry := (course.registry.mark course.plan).registry }, thread)).1 :=
  ⟨_, rfl, congrArg Prod.fst (finish_eq (List.cons_ne_nil _ _))⟩

theorem eq_report {report : Report}
    (reported : (course.follow (.round .done)).2.outcomes = [.report report]) :
    report = course.report :=
  Outcome.report.inj (List.singleton_inj.1 (reported.symm.trans course.outcomes_of_round))

/-- Whoever is called is told by the receiver of their own entry. -/
theorem Minding.calls (minding : course.Minding) {call : Call (Script ε)}
    (called : call ∈ (course.registry.mark course.plan).calls) : call.receiver.Minds call.id := by
  obtain ⟨member, -⟩ := Registry.find?_eq_some_iff.1 (Registry.find?_of_mem_calls called)
  have inside := List.mem_map_of_mem (f := Call.id) called
  exact minding _ member rfl (Registry.mem_calls_iff_reaches.1 inside).2

/-- **What a round changes**: those who were subscribed and whom marking goes over are left in the
status in which their own receivers leave them, and everybody else as they were. -/
theorem registry_held (minding : course.Minding) : course.held.registry =
    course.registry.mapStatus fun e =>
      if e.status = .subscribed ∧ course.registry.reaches course.plan e.id = true then
        e.receiver.leaves .notified
      else e.status := by
  obtain ⟨thread, stack, held⟩ := course.held_eq
  have once := course.registry.nodup_calls course.plan
  rw [held, (finish_of_notifying once (fun _ => minding.calls) _ stack).1]
  show (course.registry.mark course.plan).registry.leavingAll _ = _
  conv_lhs => rw [Registry.registry_mark, Registry.leavingAll, Registry.mapStatus_mapStatus]
  apply Registry.mapStatus_congr
  intro e member
  dsimp only
  rw [Registry.find?_calls member]
  by_cases reached : course.registry.reaches course.plan e.id = true
  · by_cases waits : e.status = .subscribed
    · simp [reached, waits, Registry.callOf, Status.notify]
    · simp [reached, waits, Status.notify_of_ne waits]
  · simp [reached]

theorem told_held (minding : course.Minding) :
    course.held.calls.map CallRecord.id = course.calls.map CallRecord.id ++
      (course.registry.mark course.plan).calls.map Call.id := by
  obtain ⟨thread, stack, held⟩ := course.held_eq
  have once := course.registry.nodup_calls course.plan
  rw [held, (finish_of_notifying once (fun _ => minding.calls) _ stack).2]

end Course

end Telematics.Shutdown
