/-
# Telematics.Proofs.Shutdown.Convergence -- a shutdown comes to its end

The shutdown waits for those that are `awaited`: the participants with a name of
their own and the registered roles of the plan that have not ended.  It is
complete when nobody is awaited (`isComplete_iff_awaited`).

A round that finds the shutdown incomplete leaves somebody notified who is
awaited, so the coordinator never waits for nobody (`notified_of_incomplete`): a
stage that is not drained has a member that has not ended, and marking tells it.
When in each cycle somebody who is notified ends, each cycle leaves fewer that
are awaited, and as many cycles as there were at first are enough (`converges`).
-/
import Telematics.Proofs.Shutdown.Past

namespace Telematics.Shutdown

set_option autoImplicit false

variable {ρ ε : Type}

/-- Whether the shutdown waits for a participant that is registered. -/
def Plan.counts (plan : Plan) : Identity → Bool
  | .named _ => true
  | .fixed role => plan.contains role

theorem Plan.counts_fixed_iff {plan : Plan} {role : Role} :
    plan.counts (.fixed role) = true ↔ ∃ stage ∈ plan.stages, role ∈ stage :=
  Plan.contains_iff.trans List.mem_flatten

namespace Registry

/-! ## Who is awaited -/

/-- Those that the shutdown waits for. -/
def awaited (r : Registry ρ) (plan : Plan) : List Identity :=
  (r.entries.filter fun e => plan.counts e.id && !e.status.isTerminal).map Entry.id

theorem mem_awaited {r : Registry ρ} {plan : Plan} {id : Identity} :
    id ∈ r.awaited plan ↔
      plan.counts id = true ∧ ∃ status, r.status? id = some status ∧ status.isTerminal = false := by
  simp only [awaited, List.mem_map, List.mem_filter, Bool.and_eq_true, Bool.not_eq_true',
    status?_eq_some_iff]
  constructor
  · rintro ⟨e, ⟨member, counts, going⟩, rfl⟩
    exact ⟨counts, e.status, ⟨e, member, rfl, rfl⟩, going⟩
  · rintro ⟨counts, status, ⟨e, member, rfl, rfl⟩, going⟩
    exact ⟨e, ⟨member, counts, going⟩, rfl⟩

/-- The shutdown is complete when nobody is awaited. -/
theorem isComplete_iff_awaited {r : Registry ρ} {plan : Plan} :
    r.isComplete plan = true ↔ r.awaited plan = [] := by
  rw [isComplete, Bool.and_eq_true, isDrained_iff, List.eq_nil_iff_forall_not_mem, namedDone,
    List.all_eq_true]
  constructor
  · rintro ⟨named, staged⟩ id member
    obtain ⟨counts, status, found, going⟩ := mem_awaited.1 member
    cases id with
    | named name =>
      obtain ⟨e, inside, own, rfl⟩ := status?_eq_some_iff.1 found
      have ended := named e inside
      rw [own, going] at ended
      cases ended
    | fixed role =>
      have inside : role ∈ plan.roles := List.mem_flatten.2 (Plan.counts_fixed_iff.1 counts)
      exact absurd (staged role inside status found) (by simp [going])
  · intro none
    constructor
    · intro e inside
      cases going : e.status.isTerminal with
      | true => simp
      | false =>
        cases own : e.id with
        | fixed role => rfl
        | named name =>
          refine absurd (mem_awaited.2 ⟨?_, e.status, ?_, going⟩) (none e.id)
          · rw [own]
            rfl
          · exact status?_eq_some_iff.2 ⟨e, inside, rfl, rfl⟩
    · intro role inside status found
      cases going : status.isTerminal with
      | true => rfl
      | false =>
        have counts := Plan.counts_fixed_iff.2 (List.mem_flatten.1 inside)
        exact absurd (mem_awaited.2 ⟨counts, status, found, going⟩) (none _)

theorem Onward.awaited {r later : Registry ρ} (onward : r.Onward later) (plan : Plan) :
    (later.awaited plan).Sublist (r.awaited plan) := by
  obtain ⟨f, keeps, rfl⟩ := onward
  have after : (r.mapStatus f).awaited plan =
      (r.entries.filter fun e => plan.counts e.id && !(f e).isTerminal).map Entry.id := by
    simp only [Registry.awaited, mapStatus, List.filter_map, List.map_map]
    rfl
  have fewer : (r.entries.filter fun e => plan.counts e.id && !(f e).isTerminal) =
      (r.entries.filter fun e => plan.counts e.id && !e.status.isTerminal).filter
        fun e => plan.counts e.id && !(f e).isTerminal := by
    rw [List.filter_filter]
    apply List.filter_congr
    intro e _
    cases ended : e.status.isTerminal with
    | false => cases plan.counts e.id <;> simp
    | true => simp [keeps e ended]
  rw [after, fewer]
  exact List.filter_sublist.map Entry.id

/-- A round that finds the shutdown incomplete leaves somebody notified who is awaited. -/
theorem notified_of_incomplete {r : Registry ρ} {plan : Plan}
    (incomplete : r.isComplete plan = false) :
    ∃ id, plan.counts id = true ∧ (r.mark plan).registry.status? id = some .notified := by
  obtain ⟨stage, marks, stopped⟩ := r.exists_marks plan
  -- Whoever marking goes over and has not ended is notified afterwards.
  have reached : ∀ id status, (id.isNamed || id.isAmong stage) = true → r.status? id = some status →
      status.isTerminal = false → (r.mark plan).registry.status? id = some .notified := by
    intro id status among found going
    rw [marks.status, found, Option.map_some, if_pos among, Status.notify_eq_notified_iff.2 going]
  rcases stopped with drained | ⟨member, held⟩
  · have awaits : r.awaited plan ≠ [] := by
      intro none
      rw [isComplete_iff_awaited.2 none] at incomplete
      cases incomplete
    obtain ⟨id, awaits⟩ := List.exists_mem_of_ne_nil _ awaits
    obtain ⟨counts, status, found, going⟩ := mem_awaited.1 awaits
    cases id with
    | named name => exact ⟨.named name, counts, reached _ status rfl found going⟩
    | fixed role =>
      obtain ⟨own, there, inside⟩ := Plan.counts_fixed_iff.1 counts
      have ended := isDrained_iff.1 (drained own there) role inside status found
      rw [going] at ended
      cases ended
  · rw [isDrained, List.all_eq_false] at held
    obtain ⟨role, inside, going⟩ := held
    cases found : r.status? (.fixed role) with
    | none =>
      rw [found] at going
      exact absurd rfl going
    | some status =>
      rw [found] at going
      have counts := Plan.counts_fixed_iff.2 ⟨stage, member, inside⟩
      refine ⟨.fixed role, counts, reached _ status ?_ found (by simpa using going)⟩
      simp [Identity.isAmong, inside]

end Registry

/-! ## Cycles of rounds -/

/-- Nobody registers between two moments. -/
def Quiet (history : List (Happening ε)) (start finish : Nat) : Prop :=
  ∀ time id receiver, start ≤ time → time < finish →
    history[time]? ≠ some (.registered id receiver)

theorem Quiet.mono {history : List (Happening ε)} {start start' finish finish' : Nat}
    (quiet : Quiet history start finish) (later : start ≤ start') (sooner : finish' ≤ finish) :
    Quiet history start' finish' := by
  intro time id receiver after before
  exact quiet time id receiver (Nat.le_trans later after) (Nat.lt_of_lt_of_le before sooner)

/-- While nobody registers, nobody who has ended is brought back. -/
theorem Quiet.onward (plan : Plan) {history : List (Happening ε)} {start finish : Nat}
    (quiet : Quiet history start finish) (order : start ≤ finish) :
    (registryAt plan history start).Onward (registryAt plan history finish) := by
  induction order with
  | refl => exact .refl _
  | @step finish order ih =>
    have before := ih (quiet.mono (Nat.le_refl _) (Nat.le_succ _))
    cases now : history[finish]? with
    | none =>
      have same : registryAt plan history (finish + 1) = registryAt plan history finish := by
        rw [registryAt, List.take_add_one, now]
        exact congrArg (replay plan) (List.append_nil _)
      rwa [Nat.succ_eq_add_one, same]
    | some happening =>
      rw [Nat.succ_eq_add_one, registryAt_succ plan now]
      apply before.trans (Happening.onward_after plan _ _)
      rintro id receiver rfl
      exact quiet finish id receiver order (Nat.lt_succ_self _) now

/-- The shutdown waits for somebody who has been told. -/
def Registry.Waiting (r : Registry ρ) (plan : Plan) (id : Identity) : Prop :=
  plan.counts id = true ∧ r.status? id = some .notified

/-- From one moment to another a round is held and is over, and then somebody who is waited for
ends, if there is anybody. -/
structure Cycle (plan : Plan) (history : List (Happening ε)) (start since closed finish : Nat) :
    Prop where
  marked : ∃ calls blocked, history[since]? = some (.marked calls blocked)
  reported : ∃ report, history[closed]? = some (.reported since report)
  order : start ≤ since ∧ since < closed ∧ closed < finish
  ends : ∀ id, (registryAt plan history (closed + 1)).Waiting plan id →
    ∃ other, (registryAt plan history (closed + 1)).Waiting plan other ∧
      (registryAt plan history finish).Ended other

/-- A number of such rounds one behind the other. -/
inductive Cycles (plan : Plan) (history : List (Happening ε)) : Nat → Nat → Nat → Prop where
  | none (start : Nat) : Cycles plan history 0 start start
  | more {n start between since closed finish : Nat} (before : Cycles plan history n start between)
    (last : Cycle plan history between since closed finish) :
    Cycles plan history (n + 1) start finish

theorem Cycles.order {plan : Plan} {history : List (Happening ε)} {n start finish : Nat}
    (cycles : Cycles plan history n start finish) : start ≤ finish := by
  induction cycles with
  | none start => exact Nat.le_refl _
  | more _ last ih =>
    have := last.order
    omega

theorem Registry.Waiting.awaited {r : Registry ρ} {plan : Plan} {id : Identity}
    (waiting : r.Waiting plan id) : id ∈ r.awaited plan :=
  mem_awaited.2 ⟨waiting.1, _, waiting.2, rfl⟩

theorem Registry.Ended.not_awaited {r : Registry ρ} {id : Identity} (ended : r.Ended id)
    (plan : Plan) : id ∉ r.awaited plan := by
  intro awaits
  obtain ⟨-, status, found, going⟩ := mem_awaited.1 awaits
  rw [ended status found] at going
  cases going

theorem length_lt_of_sublist {α : Type} {fewer all : List α} {x : α} (sublist : fewer.Sublist all)
    (inside : x ∈ all) (outside : x ∉ fewer) : fewer.length < all.length := by
  apply Nat.lt_of_le_of_ne sublist.length_le
  intro same
  rw [sublist.eq_of_length same] at outside
  exact outside inside

section Run

variable (plan : Plan) (choices : List (Choice ε))

/-- After the marking of a round that finds the shutdown incomplete, it waits for somebody who has
been told. -/
theorem waiting_of_incomplete {since : Nat} {calls : List (Call (Script ε))} {blocked : Option Nat}
    (marked : (historyOf plan choices)[since]? = some (.marked calls blocked))
    (incomplete : (registryAt plan (historyOf plan choices) since).isComplete plan = false) :
    ∃ id, (registryAt plan (historyOf plan choices) (since + 1)).Waiting plan id := by
  rw [registryAt_succ plan marked]
  exact Registry.notified_of_incomplete incomplete

/-- Whoever has been told still waits later on, or has ended. -/
theorem waiting_later {start finish : Nat} {id : Identity} (order : start ≤ finish)
    (past : finish ≤ (historyOf plan choices).length)
    (quiet : Quiet (historyOf plan choices) start finish)
    (waiting : (registryAt plan (historyOf plan choices) start).Waiting plan id) :
    (registryAt plan (historyOf plan choices) finish).Waiting plan id ∨
      id ∉ (registryAt plan (historyOf plan choices) finish).awaited plan := by
  by_cases awaits : id ∈ (registryAt plan (historyOf plan choices) finish).awaited plan
  · left
    obtain ⟨counts, status, found, going⟩ := Registry.mem_awaited.1 awaits
    have told : (registryAt plan (historyOf plan choices) finish).status? id ≠
        some .subscribed := by
      apply not_subscribed_until plan choices order past
      · rw [waiting.2]
        simp
      · intro time other after before
        exact quiet time id other after before
    refine ⟨counts, ?_⟩
    rw [found] at told ⊢
    cases status with
    | subscribed => exact absurd rfl told
    | notified => rfl
    | shutdownCompleted => cases going
    | unsubscribed => cases going
  · exact .inr awaits

/-- A cycle leaves fewer that are awaited, if there are any. -/
theorem Cycle.awaited_le {start since closed finish : Nat}
    (cycle : Cycle plan (historyOf plan choices) start since closed finish)
    (quiet : Quiet (historyOf plan choices) start finish) :
    ((registryAt plan (historyOf plan choices) finish).awaited plan).length ≤
      ((registryAt plan (historyOf plan choices) start).awaited plan).length - 1 := by
  obtain ⟨after, during, before⟩ := cycle.order
  obtain ⟨calls, blocked, marked⟩ := cycle.marked
  obtain ⟨report, reported⟩ := cycle.reported
  have past : closed + 1 ≤ (historyOf plan choices).length :=
    (List.getElem?_eq_some_iff.1 reported).1
  have opening : Quiet (historyOf plan choices) start (since + 1) :=
    quiet.mono (Nat.le_refl _) (by omega)
  have working : Quiet (historyOf plan choices) (since + 1) (closed + 1) :=
    quiet.mono (by omega) before
  have behind : Quiet (historyOf plan choices) (closed + 1) finish :=
    quiet.mono (by omega) (Nat.le_refl _)
  -- Whom the moments before the round, after its marking, at its end and at last await.
  have begun := (opening.onward plan (by omega)).awaited plan
  have held := (working.onward plan (by omega)).awaited plan
  have ended := (behind.onward plan before).awaited plan
  cases complete : (registryAt plan (historyOf plan choices) since).isComplete plan with
  | true =>
    have nobody := Registry.isComplete_iff_awaited.1 complete
    have still := ((quiet.mono after (Nat.le_refl _)).onward plan (by omega)).awaited plan
    rw [nobody] at still
    rw [List.sublist_nil.1 still]
    exact Nat.zero_le _
  | false =>
    obtain ⟨id, waiting⟩ := waiting_of_incomplete plan choices marked complete
    have less : ((registryAt plan (historyOf plan choices) finish).awaited plan).length <
        ((registryAt plan (historyOf plan choices) (since + 1)).awaited plan).length := by
      rcases waiting_later plan choices (by omega) past working waiting with still | gone
      · obtain ⟨other, told, gone⟩ := cycle.ends id still
        exact Nat.lt_of_lt_of_le
          (length_lt_of_sublist ended told.awaited (gone.not_awaited plan)) held.length_le
      · exact Nat.lt_of_le_of_lt ended.length_le
          (length_lt_of_sublist held waiting.awaited gone)
    have := begun.length_le
    omega

theorem Cycles.awaited_le {n start finish : Nat}
    (cycles : Cycles plan (historyOf plan choices) n start finish)
    (quiet : Quiet (historyOf plan choices) start finish) :
    ((registryAt plan (historyOf plan choices) finish).awaited plan).length ≤
      ((registryAt plan (historyOf plan choices) start).awaited plan).length - n := by
  induction cycles with
  | none start => exact Nat.le_refl _
  | more before last ih =>
    have order := last.order
    have first := ih (quiet.mono (Nat.le_refl _) (by omega))
    have then_ := last.awaited_le plan choices (quiet.mono before.order (Nat.le_refl _))
    omega

end Run

/-- **The shutdown converges.**  While nobody registers, as many cycles as participants were awaited
at first complete it, and after each marking that finds it incomplete it waits for somebody who has
been told. -/
theorem shutdown_converges (plan : Plan) (choices : List (Choice ε)) :
    (∀ n start finish, Quiet (historyOf plan choices) start finish →
      Cycles plan (historyOf plan choices) n start finish →
      ((registryAt plan (historyOf plan choices) start).awaited plan).length ≤ n →
      (registryAt plan (historyOf plan choices) finish).isComplete plan = true) ∧
    ∀ (since : Nat) (calls : List (Call (Script ε))) (blocked : Option Nat),
      (historyOf plan choices)[since]? = some (.marked calls blocked) →
      (registryAt plan (historyOf plan choices) since).isComplete plan = false →
      ∃ id, (registryAt plan (historyOf plan choices) (since + 1)).Waiting plan id := by
  constructor
  · intro n start finish quiet cycles enough
    have none := cycles.awaited_le plan choices quiet
    apply Registry.isComplete_iff_awaited.2
    apply List.eq_nil_of_length_eq_zero
    omega
  · intro since calls blocked marked incomplete
    exact waiting_of_incomplete plan choices marked incomplete

/-- Two stages are told one after the other, and each ends its part behind the round. -/
def retreat : List (Choice Unit) :=
  .enter (.register (.fixed .externalReceiveBridge) .done
    (.register (.fixed .messageController) .done
      (.round (.markReady (.fixed .externalReceiveBridge)
        (.round (.withdraw (.fixed .messageController) .done)))))) ::
    List.replicate 12 (.turn 0)

theorem retreat_cycles : Cycles .standard (historyOf .standard retreat) 2 2 12 := by
  have first : Cycle .standard (historyOf .standard retreat) 2 2 5 7 := by
    refine ⟨⟨_, _, rfl⟩, ⟨_, rfl⟩, by decide, ?_⟩
    intro _ _
    refine ⟨.fixed .externalReceiveBridge, ⟨rfl, rfl⟩, ?_⟩
    intro status found
    have ended : some Status.shutdownCompleted = some status := found
    cases ended
    rfl
  have second : Cycle .standard (historyOf .standard retreat) 7 7 10 12 := by
    refine ⟨⟨_, _, rfl⟩, ⟨_, rfl⟩, by decide, ?_⟩
    intro _ _
    refine ⟨.fixed .messageController, ⟨rfl, rfl⟩, ?_⟩
    intro status found
    have ended : some Status.unsubscribed = some status := found
    cases ended
    rfl
  exact .more (.more (.none 2) first) second

theorem shutdown_converges_retreat :
    ((registryAt .standard (historyOf .standard retreat) 2).awaited .standard).length = 2 ∧
      (registryAt .standard (historyOf .standard retreat) 12).isComplete .standard = true := by
  have enough : ((registryAt .standard (historyOf .standard retreat) 2).awaited
      .standard).length = 2 := rfl
  have quiet : Quiet (historyOf .standard retreat) 2 12 := by
    intro time id receiver after before
    match time with
    | 0 | 1 => omega
    | 2 | 3 | 4 | 5 | 6 | 7 | 8 | 9 | 10 | 11 => nofun
    | time + 12 => omega
  exact ⟨enough, (shutdown_converges .standard retreat).1 2 2 12 quiet retreat_cycles
    (Nat.le_of_eq enough)⟩

end Telematics.Shutdown
