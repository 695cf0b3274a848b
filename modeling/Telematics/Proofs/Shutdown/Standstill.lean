/-
# Telematics.Proofs.Shutdown.Standstill -- a complete shutdown stays complete

Whether the shutdown is complete, and where marking stops, is found by going
over the participants in two different ways.  The two agree: the shutdown is
complete just if marking would call nobody, no stage holds it up, and nobody with
a name of their own is still at work (`isComplete_iff_mark`).

From then on a round has nothing to do and leaves everything as it is
(`follow_round_of_complete`).  Ending somebody's part makes no difference, nor
does a registration that fails, and one that succeeds makes a difference just if
it is for somebody who counts (`isComplete_register`).  So the shutdown stays
complete while anybody does anything else, in any order and with any number of
rounds at once.
-/
import Telematics.Proofs.Shutdown.Effect
import Telematics.Proofs.Shutdown.Telling

namespace Telematics.Shutdown

set_option autoImplicit false

variable {ρ ε : Type}

namespace Registry

/-! ## Nobody left to mark -/

theorem counts_of_named {plan : Plan} {id : Identity} (named : id.isNamed = true) :
    plan.counts id = true := by
  cases id with
  | fixed role => cases named
  | named name => rfl

/-- Nobody who counts is still to end in a complete shutdown. -/
theorem ended_of_complete {r : Registry ρ} {plan : Plan} (complete : r.isComplete plan = true)
    {id : Identity} (counts : plan.counts id = true) : r.Ended id := by
  intro status found
  by_contra going
  have awaits : id ∈ r.awaited plan :=
    mem_awaited.2 ⟨counts, status, found, by simpa using going⟩
  rw [isComplete_iff_awaited.1 complete] at awaits
  cases awaits

/-- Marking does nothing in a complete shutdown. -/
theorem mark_of_complete {r : Registry ρ} {plan : Plan} (complete : r.isComplete plan = true) :
    r.mark plan = ⟨r, [], none⟩ := by
  have free : (r.mark plan).blocked = none := by
    apply blocked_eq_none_iff.2
    rintro stage member ⟨role, inside, status, found, going⟩
    have counts := Plan.counts_fixed_iff.2 ⟨stage, member, inside⟩
    rw [ended_of_complete complete counts status found] at going
    cases going
  have none : (r.mark plan).calls.map Call.id = [] := by
    rw [calls_mark, free, Plan.stageAt, stageCalls_nil, List.append_nil,
      List.eq_nil_iff_forall_not_mem]
    intro id called
    obtain ⟨named, waits⟩ := mem_namedCalls_ids.1 called
    cases ended_of_complete complete (counts_of_named named) _ waits
  have nobody : (r.mark plan).calls = [] := List.map_eq_nil_iff.1 none
  have same : (r.mark plan).registry = r := calls_eq_nil_iff.1 nobody
  rw [mark_eq, ← registry_mark, ← calls_mark, same, nobody, free]

/-- **The shutdown is complete** just if marking calls nobody and is held up by no stage, and nobody
with a name of their own is still at work. -/
theorem isComplete_iff_mark {r : Registry ρ} {plan : Plan} :
    r.isComplete plan = true ↔ (r.mark plan).calls = [] ∧ (r.mark plan).blocked = none ∧
      ∀ name, r.status? (.named name) ≠ some .notified := by
  constructor
  · intro complete
    have marking := mark_of_complete complete
    refine ⟨congrArg Marking.calls marking, congrArg Marking.blocked marking, ?_⟩
    intro name working
    have counts : plan.counts (.named name) = true := rfl
    cases ended_of_complete complete counts _ working
  · rintro ⟨nobody, free, idle⟩
    rw [isComplete_iff_awaited, List.eq_nil_iff_forall_not_mem]
    intro id awaits
    obtain ⟨counts, status, found, going⟩ := mem_awaited.1 awaits
    cases id with
    | named name =>
      -- Whoever has a name of their own and has not ended is at work or would be called.
      cases status with
      | subscribed =>
        have called : .named name ∈ r.namedCalls.map Call.id := mem_namedCalls_ids.2 ⟨rfl, found⟩
        rw [calls_mark, List.append_eq_nil_iff] at nobody
        rw [nobody.1] at called
        cases called
      | notified => exact idle name found
      | shutdownCompleted => cases going
      | unsubscribed => cases going
    | fixed role =>
      obtain ⟨stage, member, inside⟩ := Plan.counts_fixed_iff.1 counts
      exact blocked_eq_none_iff.1 free stage member ⟨role, inside, status, found, going⟩

/-! ## What can end a complete shutdown -/

/-- Registering makes a difference to a complete shutdown just if it is for somebody who counts. -/
theorem isComplete_register {r : Registry ρ} {plan : Plan} (complete : r.isComplete plan = true)
    (id : Identity) (receiver : ρ) :
    (r.register id (some receiver)).1.isComplete plan = true ↔ plan.counts id = false := by
  constructor
  · intro still
    by_contra counts
    have ended := ended_of_complete still (by simpa using counts)
    cases ended _ (r.status?_register_self id receiver)
  · intro out
    rw [isComplete_iff_awaited, List.eq_nil_iff_forall_not_mem]
    intro other awaits
    obtain ⟨counts, status, found, going⟩ := mem_awaited.1 awaits
    have different : other ≠ id := by
      rintro rfl
      rw [out] at counts
      cases counts
    rw [status?_register_of_ne r (some receiver) different] at found
    rw [ended_of_complete complete counts status found] at going
    cases going

theorem Onward.isComplete {r later : Registry ρ} (onward : r.Onward later) {plan : Plan}
    (complete : r.isComplete plan = true) : later.isComplete plan = true := by
  have fewer := onward.awaited plan
  rw [isComplete_iff_awaited.1 complete] at fewer
  exact isComplete_iff_awaited.2 (List.sublist_nil.1 fewer)

end Registry

/-- Nothing but the registration of somebody who counts ends a complete shutdown. -/
theorem Happening.complete_after {plan : Plan} {r : Registry (Script ε)} {happening : Happening ε}
    (complete : r.isComplete plan = true)
    (out : ∀ id receiver, happening = .registered id receiver → plan.counts id = false) :
    (happening.registryAfter plan r).isComplete plan = true := by
  by_cases registers : ∃ id receiver, happening = .registered id receiver
  · obtain ⟨id, receiver, rfl⟩ := registers
    exact (Registry.isComplete_register complete id receiver).2 (out id receiver rfl)
  · apply (Happening.onward_after plan r ?_).isComplete complete
    intro id receiver same
    exact registers ⟨id, receiver, same⟩

/-! ## Rounds that have nothing to do -/

/-- What happens while the shutdown is complete: a round marks nobody, is held up by no stage, tells
nobody, and reports that the shutdown is complete. -/
def Happening.Idle : Happening ε → Prop
  | .marked calls blocked => calls = [] ∧ blocked = none
  | .told _ _ => False
  | .reported _ report => report = ⟨[], none, true⟩
  | _ => True

/-- The rounds have nobody to tell. -/
def Vacant (held : List (Round ε)) : Prop :=
  ∀ round ∈ held, round = ⟨[], [], none⟩

theorem Member.idle_next {course : Course ε} {m : Member ε}
    (complete : course.registry.isComplete course.plan = true)
    (vacant : Vacant (rounds m.thread.stack)) : (m.next course).Idle := by
  unfold Member.next
  cases top : m.thread.stack with
  | nil => trivial
  | cons activity stack =>
    cases activity with
    | acting who script =>
      cases script with
      | round next =>
        have marking := Registry.mark_of_complete complete
        exact ⟨congrArg Marking.calls marking, congrArg Marking.blocked marking⟩
      | _ => trivial
    | notifying round =>
      have empty : round = ⟨[], [], none⟩ := by
        apply vacant
        rw [top]
        exact List.mem_cons_self
      subst empty
      show Report.mk [] none _ = _
      rw [complete]

theorem Vacant.after {held : List (Round ε)} (vacant : Vacant held) {happening : Happening ε}
    (idle : happening.Idle) : Vacant (happening.roundsAfter held) := by
  cases happening with
  | marked calls blocked =>
    obtain ⟨rfl, rfl⟩ := idle
    intro round member
    rcases List.mem_cons.1 member with rfl | earlier
    · rfl
    · exact vacant round earlier
  | told since call => exact idle.elim
  | reported since report => exact fun round member => vacant round (List.mem_of_mem_tail member)
  | _ => exact vacant

namespace Assembly

/-- Everybody's rounds have nothing to do, and have had nothing to do. -/
structure AtRest (plan : Plan) (a : Assembly ε) : Prop where
  planned : a.course.plan = plan
  complete : a.course.registry.isComplete plan = true
  vacant : ∀ m ∈ a.members, Vacant (rounds m.thread.stack)
  idle : ∀ happening ∈ a.history, happening.Idle

variable {plan : Plan} {a : Assembly ε}

theorem AtRest.enter (rest : a.AtRest plan) (script : Script ε) : (a.enter script).AtRest plan := by
  refine { rest with vacant := ?_ }
  intro m member
  rcases List.mem_append.1 member with before | new
  · exact rest.vacant m before
  · rw [List.mem_singleton.1 new]
    exact List.forall_mem_nil _

theorem AtRest.arrange (rest : a.AtRest plan) (key : Identity → Nat) :
    (a.arrange key).AtRest plan :=
  { rest with
    complete := (Registry.isComplete_of_perm (a.course.registry.arrange_perm key) plan).trans
      rest.complete }

theorem AtRest.turn (rest : a.AtRest plan) {number : Nat} {m : Member ε}
    (found : a.members[number]? = some m)
    (out : ∀ id receiver, m.next a.course = .registered id receiver → plan.counts id = false) :
    (a.turn number m).AtRest plan := by
  have vacant := rest.vacant m (List.mem_of_getElem? found)
  have idle : (m.next a.course).Idle := by
    apply m.idle_next _ vacant
    rw [rest.planned]
    exact rest.complete
  constructor
  · exact (a.turn_plan number m).trans rest.planned
  · rw [turn_registry, rest.planned]
    exact Happening.complete_after rest.complete out
  · intro other member
    obtain ⟨i, there⟩ := List.mem_iff_getElem?.1 member
    rcases members_turn there with ⟨-, rfl⟩ | ⟨-, before⟩
    · show Vacant (rounds (Course.step (a.course, m.thread)).2.stack)
      rw [rounds_step]
      exact vacant.after idle
    · exact rest.vacant other (List.mem_of_getElem? before)
  · intro happening member
    rcases List.mem_append.1 member with past | now
    · exact rest.idle happening past
    · rw [List.mem_singleton.1 now]
      exact idle

theorem AtRest.run (rest : a.AtRest plan) (choices : List (Choice ε))
    (out : ∀ id receiver, .registered id receiver ∈ (a.run choices).history →
      plan.counts id = false) : (a.run choices).AtRest plan := by
  revert out
  apply run_induction (P := fun b : Assembly ε =>
    (∀ id receiver, .registered id receiver ∈ b.history → plan.counts id = false) → b.AtRest plan)
  · intro b script ih out
    exact (ih out).enter script
  · intro b key ih out
    exact (ih out).arrange key
  · intro b number m found ih out
    have before : b.AtRest plan :=
      ih fun id receiver past => out id receiver (List.mem_append_left _ past)
    apply before.turn found
    intro id receiver now
    apply out id receiver
    rw [turn_history, now]
    exact List.mem_append_right _ (List.mem_singleton_self _)
  · exact fun _ => rest

end Assembly

/-! ## A complete shutdown -/

namespace Course

/-- A round of a complete shutdown leaves everything as it is. -/
theorem follow_round_of_complete {course : Course ε}
    (complete : course.registry.isComplete course.plan = true) :
    course.follow (.round .done) = (course, ⟨[], [.report ⟨[], none, true⟩], [], []⟩) := by
  have marking := Registry.mark_of_complete complete
  have held := course.follow_round_of_nobody (congrArg Marking.calls marking)
  rw [marking] at held
  rw [held, complete]

/-- **A complete shutdown stays complete.**  It is complete just if marking would call nobody and be
held up by no stage, and nobody with a name of their own is still at work.  While nobody who counts
registers, whatever is done and however many rounds are held at once, it stays complete, and each
round marks nobody, tells nobody and reports that; a round on its own leaves everything as it is.
And just the registration of somebody who counts ends it. -/
theorem complete_stays_complete (course : Course ε) :
    let plan := course.plan
    (course.registry.isComplete plan = true ↔
      (course.registry.mark plan).calls = [] ∧ (course.registry.mark plan).blocked = none ∧
        ∀ name, course.registry.status? (.named name) ≠ some .notified) ∧
    (course.registry.isComplete plan = true → ∀ choices,
      let after := (Assembly.mk course [] []).run choices
      (∀ id receiver, .registered id receiver ∈ after.history → plan.counts id = false) →
        after.course.registry.isComplete plan = true ∧
        (∀ happening ∈ after.history, happening.Idle) ∧
        after.course.registry.mark plan = ⟨after.course.registry, [], none⟩ ∧
        after.course.follow (.round .done) =
          (after.course, ⟨[], [.report ⟨[], none, true⟩], [], []⟩) ∧
        ∀ id receiver,
          (after.course.registry.register id (some receiver)).1.isComplete plan = true ↔
            plan.counts id = false) := by
  intro plan
  refine ⟨Registry.isComplete_iff_mark, ?_⟩
  intro complete choices after out
  have first : (Assembly.mk course [] []).AtRest plan :=
    ⟨rfl, complete, List.forall_mem_nil _, List.forall_mem_nil _⟩
  have rest : after.AtRest plan := first.run choices out
  refine ⟨rest.complete, rest.idle, Registry.mark_of_complete rest.complete, ?_, ?_⟩
  · apply follow_round_of_complete
    rw [rest.planned]
    exact rest.complete
  · exact Registry.isComplete_register rest.complete

/-- One of two stages has ended and nobody has registered for the other, and somebody is at work who
is in no stage. -/
def settled : Course Unit where
  plan := ⟨[[.midHandler], [.messageController]], by decide⟩
  registry :=
    { entries :=
        [⟨.fixed .midHandler, .done, .shutdownCompleted⟩, ⟨.named "cache", .done, .unsubscribed⟩,
          ⟨.fixed .dbTransport, .done, .notified⟩]
      nodup := by decide }
  calls := []

/-- Somebody ends once more, fails to register, registers for a role in no stage, and holds a round
while somebody else does. -/
def afterwards : List (Choice Unit) :=
  [.enter (.markReady (.fixed .midHandler) (.registerNobody (.named "cache")
      (.register (.fixed .lifecycleController) .done (.round .done)))),
    .enter (.round (.withdraw (.named "queue") .done)),
    .turn 0, .turn 0, .turn 1, .turn 0, .turn 0, .turn 1, .turn 0, .turn 1]

theorem complete_stays_complete_settled :
    let after := (Assembly.mk settled [] []).run afterwards
    settled.registry.isComplete settled.plan = true ∧
    after.course.registry.status? (.fixed .lifecycleController) = some .subscribed ∧
    after.course.follow (.round .done) =
      (after.course, ⟨[], [.report ⟨[], none, true⟩], [], []⟩) ∧
    (after.course.registry.register (.fixed .messageController) (some .done)).1.isComplete
      settled.plan = false := by
  intro after
  obtain ⟨-, stays⟩ := complete_stays_complete settled
  have out : ∀ id receiver, .registered id receiver ∈ after.history →
      settled.plan.counts id = false := by
    intro id receiver there
    have only : after.history = [.finished (.fixed .midHandler) .shutdownCompleted, .nothing,
      .marked [] none, .registered (.fixed .lifecycleController) .done, .marked [] none,
      .reported 2 ⟨[], none, true⟩, .reported 4 ⟨[], none, true⟩,
      .finished (.named "queue") .unsubscribed] := rfl
    rw [only] at there
    simp only [List.mem_cons, reduceCtorEq, false_or, or_false, Happening.registered.injEq,
      List.not_mem_nil] at there
    rw [there.1]
    rfl
  obtain ⟨-, -, -, still, ends⟩ := stays rfl afterwards out
  refine ⟨rfl, rfl, still, ?_⟩
  rw [← Bool.not_eq_true, ends]
  decide

end Course

end Telematics.Shutdown
