/-
# Telematics.Proofs.Shutdown.Effect -- what marking changes, entry by entry

A stage holds the shutdown up while one of its roles is registered and has not
ended.  Marking stops at the first stage that does (`blocked_eq_some_iff`), and
what it does beyond that depends on this stage alone (`mark_eq`): the statuses it
changes are those of the subscribed participants with a name of their own and of
the subscribed members of the stage, and it calls just these, the named ones
first and then the others in the order of the plan.

To mark again changes nothing and calls nobody (`mark_mark`): nobody is left
subscribed among those that marking goes over, and since a status that has
become notified is no end, the stages that held the shutdown up still do.  So
while receivers leave the registry alone, the next round has nobody to tell.
-/
import Telematics.Proofs.Shutdown.Round

namespace Telematics.Shutdown

set_option autoImplicit false

variable {ρ ε : Type}

/-- The members of the stage at which marking stops. -/
def Plan.stageAt (plan : Plan) : Option Nat → List Role
  | some k => (plan.stages[k]?).getD []
  | none => []

namespace Registry

/-! ## The stage at which marking stops -/

/-- Somebody of a stage is registered and has not ended. -/
def Holds (r : Registry ρ) (stage : List Role) : Prop :=
  ∃ role ∈ stage, ∃ status, r.status? (.fixed role) = some status ∧ status.isTerminal = false

theorem holds_iff {r : Registry ρ} {stage : List Role} :
    r.Holds stage ↔ r.isDrained stage = false := by
  rw [← Bool.not_eq_true, isDrained_iff]
  constructor
  · rintro ⟨role, inside, status, found, going⟩ ended
    rw [ended role inside status found] at going
    cases going
  · intro held
    by_contra nobody
    apply held
    intro role inside status found
    by_contra going
    exact nobody ⟨role, inside, status, found, by simpa using going⟩

/-- The first stage that holds the shutdown up. -/
structure HeldAt (r : Registry ρ) (plan : Plan) (k : Nat) (stage : List Role) : Prop where
  there : plan.stages[k]? = some stage
  holds : r.Holds stage
  first : ∀ j earlier, j < k → plan.stages[j]? = some earlier → ¬ r.Holds earlier

theorem HeldAt.unique {r : Registry ρ} {plan : Plan} {k k' : Nat} {stage stage' : List Role}
    (left : r.HeldAt plan k stage) (right : r.HeldAt plan k' stage') : k = k' := by
  rcases Nat.lt_trichotomy k k' with less | same | greater
  · exact absurd left.holds (right.first k stage less left.there)
  · exact same
  · exact absurd right.holds (left.first k' stage' greater right.there)

/-- Marking goes over those with a name of their own and, if a stage holds the shutdown up, over the
first one that does. -/
theorem mark_cases (r : Registry ρ) (plan : Plan) :
    ((∀ stage ∈ plan.stages, ¬ r.Holds stage) ∧
        r.mark plan = ⟨r.markNamed, r.namedCalls, none⟩) ∨
      ∃ k stage, r.HeldAt plan k stage ∧ r.mark plan =
        ⟨r.markNamed.markStage stage, r.namedCalls ++ r.markNamed.stageCalls stage, some k⟩ := by
  have free : ∀ stage, r.isDrained stage = true → ¬ r.Holds stage := by
    intro stage drained holds
    rw [holds_iff.1 holds] at drained
    cases drained
  rcases r.markNamed.markStages_cases 0 plan.stages with
    ⟨marking, drained⟩ | ⟨before, stage, after, split, drained, held, marking⟩
  · simp only [isDrained_markNamed] at drained
    refine .inl ⟨fun stage member => free stage (drained stage member), ?_⟩
    rw [mark, marking, List.append_nil]
  · simp only [isDrained_markNamed] at drained held
    refine .inr ⟨before.length, stage, ⟨?_, holds_iff.2 held, ?_⟩, ?_⟩
    · simp [split]
    · intro j earlier sooner there
      rw [split, List.getElem?_append_left sooner] at there
      exact free earlier (drained earlier (List.mem_of_getElem? there))
    · rw [mark, marking, Nat.zero_add]

theorem blocked_eq_some_iff {r : Registry ρ} {plan : Plan} {k : Nat} :
    (r.mark plan).blocked = some k ↔ ∃ stage, r.HeldAt plan k stage := by
  rcases r.mark_cases plan with ⟨free, marking⟩ | ⟨k', stage, held, marking⟩
  · rw [marking]
    constructor
    · rintro ⟨⟩
    · rintro ⟨stage, held⟩
      exact absurd held.holds (free stage (List.mem_of_getElem? held.there))
  · rw [marking]
    constructor
    · rintro ⟨⟩
      exact ⟨stage, held⟩
    · rintro ⟨stage', held'⟩
      rw [held.unique held']

theorem blocked_eq_none_iff {r : Registry ρ} {plan : Plan} :
    (r.mark plan).blocked = none ↔ ∀ stage ∈ plan.stages, ¬ r.Holds stage := by
  rcases r.mark_cases plan with ⟨free, marking⟩ | ⟨k, stage, held, marking⟩
  · rw [marking]
    exact ⟨fun _ => free, fun _ => rfl⟩
  · rw [marking]
    constructor
    · rintro ⟨⟩
    · intro free
      exact absurd held.holds (free stage (List.mem_of_getElem? held.there))

/-! ## What marking comes to -/

/-- Whom marking goes over. -/
def reaches (r : Registry ρ) (plan : Plan) (id : Identity) : Bool :=
  id.isNamed || id.isAmong (plan.stageAt (r.mark plan).blocked)

theorem stageCalls_nil (r : Registry ρ) : r.stageCalls [] = [] := rfl

/-- Marking those with a name of their own makes no difference to who is called of a stage. -/
theorem stageCalls_markNamed (r : Registry ρ) (stage : List Role) :
    r.markNamed.stageCalls stage = r.stageCalls stage := by
  unfold stageCalls
  congr 3
  funext role
  rw [markNamed, find?_mapStatus]
  cases found : r.find? (.fixed role) with
  | none => rfl
  | some e =>
    obtain ⟨id, receiver, status⟩ := e
    obtain ⟨-, rfl⟩ := find?_eq_some_iff.1 found
    rfl

theorem markStage_eq (r : Registry ρ) (stage : List Role) :
    r.markStage stage =
      r.mapStatus fun e => if e.id.isAmong stage then e.status.notify else e.status := by
  unfold markStage
  congr 1
  funext e
  cases e.id with
  | named name => rfl
  | fixed role => simp [Identity.isAmong]

theorem markStage_markNamed (r : Registry ρ) (stage : List Role) :
    r.markNamed.markStage stage = r.mapStatus fun e =>
      if e.id.isNamed || e.id.isAmong stage then e.status.notify else e.status := by
  rw [markStage_eq, markNamed, mapStatus_mapStatus]
  congr 1
  funext e
  cases own : e.id with
  | named name => simp [Identity.isNamed, Identity.isAmong]
  | fixed role => simp [Identity.isNamed]

/-- Everything that marking does follows from the stage at which it stops. -/
theorem mark_eq (r : Registry ρ) (plan : Plan) :
    r.mark plan =
      ⟨r.mapStatus fun e => if r.reaches plan e.id then e.status.notify else e.status,
        r.namedCalls ++ r.stageCalls (plan.stageAt (r.mark plan).blocked),
        (r.mark plan).blocked⟩ := by
  unfold reaches
  rcases r.mark_cases plan with ⟨-, marking⟩ | ⟨k, stage, held, marking⟩
  · have whole := r.markStage_markNamed []
    rw [markStage_nil] at whole
    simp only [marking, Plan.stageAt, stageCalls_nil, List.append_nil, ← whole]
  · have there : plan.stageAt (some k) = stage := by rw [Plan.stageAt, held.there, Option.getD_some]
    simp only [marking, there, ← r.markStage_markNamed stage, stageCalls_markNamed]

theorem registry_mark (r : Registry ρ) (plan : Plan) : (r.mark plan).registry =
    r.mapStatus fun e => if r.reaches plan e.id then e.status.notify else e.status := by
  rw [mark_eq]

theorem status?_mark (r : Registry ρ) (plan : Plan) (id : Identity) :
    (r.mark plan).registry.status? id =
      (r.status? id).map fun status => if r.reaches plan id then status.notify else status := by
  rw [registry_mark]
  exact r.status?_mapStatus
    (fun id status => if r.reaches plan id then status.notify else status) (fun _ => rfl) id

theorem calls_mark (r : Registry ρ) (plan : Plan) : (r.mark plan).calls =
    r.namedCalls ++ r.stageCalls (plan.stageAt (r.mark plan).blocked) :=
  congrArg Marking.calls (r.mark_eq plan)

theorem entries_mark (r : Registry ρ) (plan : Plan) :
    (r.mark plan).registry.entries = r.entries.map fun e =>
      if e.status = .subscribed ∧ r.reaches plan e.id then { e with status := .notified }
      else e := by
  rw [registry_mark]
  apply List.map_congr_left
  intro e _
  obtain ⟨id, receiver, status⟩ := e
  by_cases reached : r.reaches plan id
  · by_cases waits : status = .subscribed
    · simp [reached, waits, Status.notify]
    · simp [reached, waits, Status.notify_of_ne waits]
  · simp [reached]

/-- The members of a stage are called in its order. -/
theorem stageCalls_ids (r : Registry ρ) (stage : List Role) :
    (r.stageCalls stage).map Call.id =
      (stage.filter fun role => r.status? (.fixed role) = some .subscribed).map .fixed := by
  unfold stageCalls
  induction stage with
  | nil => rfl
  | cons role stage ih =>
    cases found : r.find? (.fixed role) with
    | none =>
      have missing : r.status? (.fixed role) = none := by rw [status?, found]; rfl
      rw [List.filterMap_cons, found, List.filter_cons_of_neg (by simp [missing])]
      exact ih
    | some e =>
      have own := (find?_eq_some_iff.1 found).2
      have status : r.status? (.fixed role) = some e.status := by rw [status?, found]; rfl
      rw [List.filterMap_cons, found]
      by_cases waits : e.status = .subscribed
      · rw [List.filter_cons_of_pos (by simpa using waits),
          List.filter_cons_of_pos (by simp [status, waits]), List.map_cons, List.map_cons,
          List.map_cons, ih, callOf, own]
      · rw [List.filter_cons_of_neg (by simpa using waits),
          List.filter_cons_of_neg (by simp [status, waits]), ih]

theorem mem_namedCalls_ids {r : Registry ρ} {id : Identity} :
    id ∈ r.namedCalls.map Call.id ↔ id.isNamed = true ∧ r.status? id = some .subscribed := by
  rw [List.mem_map, status?_eq_some_iff]
  constructor
  · rintro ⟨call, called, rfl⟩
    obtain ⟨named, e, member, waits, rfl⟩ := (r.marks_named.called call).1 called
    exact ⟨named, e, member, rfl, waits⟩
  · rintro ⟨named, e, member, rfl, waits⟩
    exact ⟨callOf e, (r.marks_named.called _).2 ⟨named, e, member, waits, rfl⟩, rfl⟩

/-! ## To mark again -/

/-- Whether a stage holds the shutdown up does not change by marking. -/
theorem holds_mark {r : Registry ρ} (plan : Plan) {stage : List Role} :
    (r.mark plan).registry.Holds stage ↔ r.Holds stage := by
  have same : (r.mark plan).registry.isDrained stage = r.isDrained stage := by
    unfold isDrained
    congr 1
    funext role
    rw [status?_mark, Option.map_map]
    cases r.status? (.fixed role) with
    | none => rfl
    | some status =>
      by_cases reached : r.reaches plan (.fixed role) = true
      · simp [reached, Status.isTerminal_notify]
      · simp [reached]
  rw [holds_iff, holds_iff, same]

theorem blocked_mark (r : Registry ρ) (plan : Plan) :
    ((r.mark plan).registry.mark plan).blocked = (r.mark plan).blocked := by
  have later : ∀ {k stage}, r.HeldAt plan k stage → (r.mark plan).registry.HeldAt plan k stage := by
    intro k stage held
    refine ⟨held.there, (holds_mark plan).2 held.holds, ?_⟩
    intro j earlier sooner there holds
    exact held.first j earlier sooner there ((holds_mark plan).1 holds)
  cases blocked : (r.mark plan).blocked with
  | some k =>
    obtain ⟨stage, held⟩ := blocked_eq_some_iff.1 blocked
    exact blocked_eq_some_iff.2 ⟨stage, later held⟩
  | none =>
    have free := blocked_eq_none_iff.1 blocked
    apply blocked_eq_none_iff.2
    intro stage member holds
    exact free stage member ((holds_mark plan).1 holds)

/-- A marking calls nobody just if it changes nothing. -/
theorem calls_eq_nil_iff {r : Registry ρ} {plan : Plan} :
    (r.mark plan).calls = [] ↔ (r.mark plan).registry = r := by
  constructor
  · intro nobody
    apply eq_of_entries
    rw [entries_mark]
    refine (List.map_congr_left ?_).trans (List.map_id _)
    intro e member
    have alone : ¬ (e.status = .subscribed ∧ r.reaches plan e.id = true) := by
      rintro ⟨waits, reached⟩
      have own : r.status? e.id = some .subscribed :=
        status?_eq_some_iff.2 ⟨e, member, rfl, waits⟩
      have called : e.id ∈ (r.mark plan).calls.map Call.id := by
        refine mem_calls_iff.2 ⟨own, ?_⟩
        rw [status?_mark, own, Option.map_some, if_pos reached]
        rfl
      rw [nobody] at called
      cases called
    exact if_neg alone
  · intro same
    have nobody : (r.mark plan).calls.map Call.id = [] := by
      rw [List.eq_nil_iff_forall_not_mem]
      intro id called
      obtain ⟨waits, told⟩ := mem_calls_iff.1 called
      rw [same, waits] at told
      cases told
    exact List.map_eq_nil_iff.1 nobody

/-- **To mark again** calls nobody, stops at the same stage and changes nothing. -/
theorem mark_mark (r : Registry ρ) (plan : Plan) :
    (r.mark plan).registry.mark plan = ⟨(r.mark plan).registry, [], (r.mark plan).blocked⟩ := by
  have reached : (r.mark plan).registry.reaches plan = r.reaches plan := by
    funext id
    rw [reaches, blocked_mark, reaches]
  have same : ((r.mark plan).registry.mark plan).registry = (r.mark plan).registry := by
    conv_lhs => rw [registry_mark, reached, registry_mark, mapStatus_mapStatus]
    rw [registry_mark]
    congr 1
    funext e
    split
    · exact Status.notify_of_ne (notify_ne_subscribed e.status)
    · rfl
  rw [mark_eq, ← registry_mark, same, ← calls_mark, calls_eq_nil_iff.2 same, blocked_mark]

end Registry

/-! ## Receivers that change nothing -/

/-- The script leaves the registry alone, apart from the rounds in it. -/
def Script.Harmless : Script ε → Prop
  | .done => True
  | .markReady _ _ | .withdraw _ _ | .register _ _ _ => False
  | .observe _ next | .registerNobody _ next | .round next | .perform _ next | .idle next =>
    next.Harmless

/-- What a thread does leaves the registry alone, apart from the rounds it will hold. -/
def Activity.Harmless : Activity ε → Prop
  | .acting _ script => script.Harmless
  | .notifying round => ∀ call ∈ round.pending, call.receiver.Harmless

namespace Course

/-- A thread that does no harm to what a marking has led to. -/
structure Sparing (plan : Plan) (r : Registry (Script ε)) (s : Course ε × Thread ε) : Prop where
  planned : s.1.plan = plan
  marked : s.1.registry = (r.mark plan).registry
  harmless : ∀ activity ∈ s.2.stack, activity.Harmless

theorem Sparing.step {plan : Plan} {r : Registry (Script ε)} {s : Course ε × Thread ε}
    (sparing : Sparing plan r s) (going : s.2.stack ≠ []) : Sparing plan r (step s) := by
  obtain ⟨course, thread⟩ := s
  obtain ⟨planned, marked, harmless⟩ := sparing
  dsimp only at planned marked harmless going
  cases top : thread.stack with
  | nil => exact absurd top going
  | cons activity stack =>
    rw [top, List.forall_mem_cons] at harmless
    obtain ⟨mine, rest⟩ := harmless
    cases activity with
    | acting who script =>
      rw [step_of_acting course top]
      cases script with
      | done => exact ⟨planned, marked, rest⟩
      | markReady id next => exact mine.elim
      | withdraw id next => exact mine.elim
      | register id receiver next => exact mine.elim
      | round next =>
        -- Whoever could be called has been marked before.
        have again : course.registry.mark course.plan =
            ⟨(r.mark plan).registry, [], (r.mark plan).blocked⟩ := by
          rw [marked, planned]
          exact r.mark_mark plan
        simp only [act, again]
        refine ⟨planned, rfl, ?_⟩
        rw [List.forall_mem_cons, List.forall_mem_cons]
        exact ⟨List.forall_mem_nil _, mine, rest⟩
      | _ =>
        refine ⟨by simp [act, planned], by simp [act, marked, Registry.register], ?_⟩
        simp only [act, record_stack, operate_stack, List.forall_mem_cons]
        exact ⟨mine, rest⟩
    | notifying round =>
      rw [step_of_notifying course top, notify]
      change ∀ call ∈ round.pending, call.receiver.Harmless at mine
      split
      · rename_i call pending still
        rw [still, List.forall_mem_cons] at mine
        refine ⟨planned, marked, ?_⟩
        rw [List.forall_mem_cons, List.forall_mem_cons]
        exact ⟨mine.1, mine.2, rest⟩
      · refine ⟨by simp [planned], by simp [marked], ?_⟩
        rw [record_stack]
        exact rest

theorem follow_plan (course : Course ε) (script : Script ε) :
    (course.follow script).1.plan = course.plan :=
  finish_induction (P := fun s => s.1.plan = course.plan)
    (fun s _ same => (step_plan s).trans same) rfl

/-- Receivers that leave the registry alone leave it as the marking has made it. -/
theorem registry_follow_round (course : Course ε)
    (harmless : ∀ call ∈ (course.registry.mark course.plan).calls, call.receiver.Harmless) :
    (course.follow (.round .done)).1.registry = (course.registry.mark course.plan).registry := by
  have opened : Sparing course.plan course.registry
      (step (course, Thread.ofScript (.round .done))) := by
    have top : (Thread.ofScript (.round .done) : Thread ε).stack = [.acting none (.round .done)] :=
      rfl
    refine ⟨rfl, rfl, ?_⟩
    rw [step_of_acting course top]
    simp only [act, List.forall_mem_cons]
    exact ⟨harmless, trivial, List.forall_mem_nil _⟩
  rw [follow, finish_eq (List.cons_ne_nil _ _)]
  exact (finish_induction (fun _ going sparing => Sparing.step sparing going) opened).marked

/-- **What a round marks.**  It stops at the first stage that has a registered member who has not
ended, if there is one, and turns into notified the subscribed participants with a name of their own
and the subscribed members of that stage, and no other entry.  It calls just these, the named ones
first and then the others in the order of the plan, nobody twice and everybody by their receiver.
While the receivers leave the registry as it is, the next round calls nobody, stops at the same
stage and changes nothing. -/
theorem round_marks_exactly (course : Course ε) :
    let plan := course.plan
    let r := course.registry
    let marking := r.mark plan
    let stage := plan.stageAt marking.blocked
    let first := course.follow (.round .done)
    (∀ k, marking.blocked = some k ↔ ∃ held, r.HeldAt plan k held) ∧
    (marking.blocked = none ↔ ∀ other ∈ plan.stages, ¬ r.Holds other) ∧
    marking.registry.entries = r.entries.map (fun e =>
      if e.status = .subscribed ∧ (e.id.isNamed || e.id.isAmong stage) = true then
        { e with status := .notified }
      else e) ∧
    (∃ named staged, marking.calls = named ++ staged ∧
      (∀ id, id ∈ named.map Call.id ↔ id.isNamed = true ∧ r.status? id = some .subscribed) ∧
      staged.map Call.id =
        (stage.filter fun role => r.status? (.fixed role) = some .subscribed).map .fixed) ∧
    (marking.calls.map Call.id).Nodup ∧
    (∀ call ∈ marking.calls, r.find? call.id = some ⟨call.id, call.receiver, .subscribed⟩) ∧
    (∃ complete, first.2.outcomes =
      [.report ⟨marking.calls.map Call.id, marking.blocked, complete⟩]) ∧
    ((∀ call ∈ marking.calls, call.receiver.Harmless) → first.1.registry = marking.registry) ∧
    (first.1.registry = marking.registry → first.1.follow (.round .done) = (first.1,
      ⟨[], [.report ⟨[], marking.blocked, marking.registry.isComplete plan⟩], [], []⟩)) := by
  intro plan r marking stage first
  refine ⟨?_, Registry.blocked_eq_none_iff, r.entries_mark plan, ?_, r.nodup_calls plan, ?_, ?_,
    course.registry_follow_round, ?_⟩
  · intro k
    exact Registry.blocked_eq_some_iff
  · refine ⟨r.namedCalls, r.stageCalls stage, r.calls_mark plan, ?_, r.stageCalls_ids stage⟩
    intro id
    exact Registry.mem_namedCalls_ids
  · intro call called
    exact Registry.find?_of_mem_calls called
  · exact ⟨_, course.outcomes_of_round⟩
  intro unchanged
  have planned : first.1.plan = plan := course.follow_plan _
  have again : first.1.registry.mark first.1.plan = ⟨marking.registry, [], marking.blocked⟩ := by
    rw [unchanged, planned]
    exact r.mark_mark plan
  have nobody := first.1.follow_round_of_nobody (congrArg Marking.calls again)
  rw [again, planned] at nobody
  have same : first.1 = ⟨plan, marking.registry, first.1.calls⟩ := by rw [← planned, ← unchanged]
  exact nobody.trans (congrArg (·, _) same.symm)

/-- The first stage has ended, the second one holds the shutdown up, and somebody waits in the third
one; whoever is told looks at the others and holds a round. -/
def midway : Course Unit :=
  let look : Script Unit := .observe (.fixed .midHandler) (.round .done)
  let entry : Identity → Status → Entry (Script Unit) := fun id status => ⟨id, look, status⟩
  { plan := .standard
    registry :=
      { entries :=
          [entry (.fixed .midHandler) .shutdownCompleted, entry (.fixed .mqttUploader) .subscribed,
            entry (.fixed .uploadController) .subscribed, entry (.named "cache") .subscribed,
            entry (.fixed .messageController) .notified]
        nodup := by decide }
    calls := [] }

/-- The round tells the one with a name of its own and the one member of the second stage that
waits, and the next round nobody. -/
theorem round_marks_exactly_midway :
    let marking := midway.registry.mark midway.plan
    let first := midway.follow (.round .done)
    midway.registry.HeldAt midway.plan 1 [.messageController, .uploadController] ∧
    marking.calls.map Call.id = [.named "cache", .fixed .uploadController] ∧
    first.1.registry = marking.registry ∧
    first.1.follow (.round .done) =
      (first.1, ⟨[], [.report ⟨[], some 1, false⟩], [], []⟩) := by
  obtain ⟨stopped, -, -, -, -, -, -, spared, again⟩ := round_marks_exactly midway
  have blocked : (midway.registry.mark midway.plan).blocked = some 1 := rfl
  obtain ⟨stage, held⟩ := (stopped 1).1 blocked
  have there := held.there
  cases there
  have harmless : ∀ call ∈ (midway.registry.mark midway.plan).calls, call.receiver.Harmless := by
    show ∀ call ∈ [(⟨.named "cache", _⟩ : Call (Script Unit)), ⟨.fixed .uploadController, _⟩], _
    rw [List.forall_mem_cons, List.forall_mem_singleton]
    exact ⟨trivial, trivial⟩
  exact ⟨held, rfl, spared harmless, again (spared harmless)⟩

end Course

end Telematics.Shutdown
