/-
# Telematics.Proofs.Shutdown.Barrier -- the barrier between the stages

A round looks at the stages when it marks, and tells the members of a stage
later, when others may have done anything in between.  The barrier holds all the
same: when a member of a stage is told, each registered member of the stages
before has ended, or has been registered since the round marked
(`told_behind_barrier`).

What carries this is that an end is final until somebody registers again.  So a
role is `Clear` of a moment when its part is over or it has been registered
since, which no happening undoes (`Clear.after`); the round is `Dated`, as
everybody that it is still to tell is kept back by no role that is not clear of
the moment of its marking.
-/
import Telematics.Proofs.Shutdown.Assembly
import Telematics.Proofs.Shutdown.Marking

namespace Telematics.Shutdown

set_option autoImplicit false

variable {ε : Type}

namespace Happening

/-- Only registering brings back who has ended. -/
theorem ended_after {r : Registry (Script ε)} {id : Identity} (ended : r.Ended id) (plan : Plan)
    (happening : Happening ε) (other : ∀ receiver, happening ≠ .registered id receiver) :
    (happening.registryAfter plan r).Ended id := by
  cases happening with
  | registered who receiver =>
    have different : id ≠ who := by
      rintro rfl
      exact other receiver rfl
    exact ended.register different (some receiver)
  | finished who final => exact ended.finish who final
  | marked calls blocked => exact ended.mark plan
  | told since call => exact ended
  | reported since report => exact ended
  | nothing => exact ended

end Happening

namespace Assembly

/-- A participant's part is over, or it has been registered since a moment. -/
def Clear (a : Assembly ε) (since : Nat) (id : Identity) : Prop :=
  a.course.registry.Ended id ∨
    ∃ time receiver, since < time ∧ a.history[time]? = some (.registered id receiver)

/-- A round has marked at a moment, and is still to tell only such as no earlier role holds
back. -/
structure Dated (a : Assembly ε) (round : Round ε) (since : Nat) : Prop where
  marked : ∃ calls, a.history[since]? = some (.marked calls round.blocked) ∧
    round.notified = calls.map Call.id ∧ round.pending <:+ calls
  clear : ∀ call ∈ round.pending, ∀ role earlier : Role, call.id = .fixed role →
    a.course.plan.Before earlier role → a.Clear since (.fixed earlier)

/-- Some rounds have marked at some moments, each at one. -/
def AllDated (a : Assembly ε) (rounds : List (Round ε)) (since : List Nat) : Prop :=
  rounds.length = since.length ∧ ∀ pair ∈ rounds.zip since, a.Dated pair.1 pair.2

/-- Each member's rounds have marked at the moments that it keeps for them. -/
def InStep (a : Assembly ε) : Prop :=
  ∀ m ∈ a.members, a.AllDated (rounds m.thread.stack) m.since

/-! ## What a step keeps -/

variable {a : Assembly ε} {number : Nat} {m : Member ε}

theorem turn_history (a : Assembly ε) (number : Nat) (m : Member ε) :
    (a.turn number m).history = a.history ++ [m.next a.course] := rfl

theorem turn_registry (a : Assembly ε) (number : Nat) (m : Member ε) :
    (a.turn number m).course.registry =
      (m.next a.course).registryAfter a.course.plan a.course.registry :=
  registry_step a.course m

theorem turn_plan (a : Assembly ε) (number : Nat) (m : Member ε) :
    (a.turn number m).course.plan = a.course.plan :=
  Course.step_plan (a.course, m.thread)

theorem history_turn {time : Nat} {happening : Happening ε}
    (past : a.history[time]? = some happening) :
    (a.turn number m).history[time]? = some happening := by
  have inside : time < a.history.length := (List.getElem?_eq_some_iff.1 past).1
  rw [turn_history, List.getElem?_append_left inside, past]

/-- Who is clear of a moment of the past stays so. -/
theorem Clear.turn {since : Nat} {id : Identity} (past : since < a.history.length)
    (clear : a.Clear since id) : (a.turn number m).Clear since id := by
  rcases clear with ended | ⟨time, receiver, later, registered⟩
  · by_cases again : ∃ receiver, m.next a.course = .registered id receiver
    · obtain ⟨receiver, now⟩ := again
      refine .inr ⟨a.history.length, receiver, past, ?_⟩
      rw [turn_history, List.getElem?_append_right (Nat.le_refl _), Nat.sub_self, now]
      rfl
    · left
      rw [turn_registry]
      apply Happening.ended_after ended
      intro receiver now
      exact again ⟨receiver, now⟩
  · exact .inr ⟨time, receiver, later, history_turn registered⟩

theorem Dated.past {round : Round ε} {since : Nat} (dated : a.Dated round since) :
    since < a.history.length := by
  obtain ⟨calls, marked, -⟩ := dated.marked
  exact (List.getElem?_eq_some_iff.1 marked).1

theorem Dated.turn {round : Round ε} {since : Nat} (dated : a.Dated round since) :
    (a.turn number m).Dated round since where
  marked := by
    obtain ⟨calls, marked, same, behind⟩ := dated.marked
    exact ⟨calls, history_turn marked, same, behind⟩
  clear := by
    intro call pending role earlier member before
    rw [turn_plan] at before
    exact (dated.clear call pending role earlier member before).turn dated.past

theorem Dated.tail {round : Round ε} {since : Nat} (dated : a.Dated round since) :
    a.Dated { round with pending := round.pending.tail } since where
  marked := by
    obtain ⟨calls, marked, same, behind⟩ := dated.marked
    exact ⟨calls, marked, same, (List.tail_suffix _).trans behind⟩
  clear := by
    intro call pending
    exact dated.clear call (List.mem_of_mem_tail pending)

/-- A round that marks finds everybody clear who would hold back somebody that it calls. -/
theorem dated_marked {calls : List (Call (Script ε))} {blocked : Option Nat}
    (now : m.next a.course = .marked calls blocked)
    (found : calls = (a.course.registry.mark a.course.plan).calls) :
    (a.turn number m).Dated ⟨calls.map Call.id, calls, blocked⟩ a.history.length where
  marked := by
    refine ⟨calls, ?_, rfl, List.suffix_refl _⟩
    rw [turn_history, List.getElem?_append_right (Nat.le_refl _), Nat.sub_self, now]
    rfl
  clear := by
    intro call pending role earlier member before
    left
    rw [turn_plan] at before
    rw [turn_registry, now]
    rw [found] at pending
    exact Registry.ended_of_mem_calls pending member before

theorem calls_of_next {course : Course ε} {calls : List (Call (Script ε))} {blocked : Option Nat}
    (now : m.next course = .marked calls blocked) :
    calls = (course.registry.mark course.plan).calls := by
  unfold Member.next at now
  split at now
  · cases now
  · rename_i script _ _
    cases script <;> simp only [Course.nextOf, reduceCtorEq, Happening.marked.injEq] at now
    exact now.1.symm
  · split at now <;> cases now

theorem AllDated.turn {rounds : List (Round ε)} {since : List Nat}
    (dated : a.AllDated rounds since) : (a.turn number m).AllDated rounds since :=
  ⟨dated.1, fun pair member => (dated.2 pair member).turn⟩

theorem dated_turn_self (dated : a.AllDated (rounds m.thread.stack) m.since) :
    (a.turn number m).AllDated (rounds (Course.step (a.course, m.thread)).2.stack)
      ((m.next a.course).sinceAfter a.history.length m.since) := by
  have kept : (a.turn number m).AllDated (rounds m.thread.stack) m.since := dated.turn
  rw [rounds_step]
  generalize rounds m.thread.stack = held at kept ⊢
  generalize m.since = moments at kept ⊢
  obtain ⟨length, each⟩ := kept
  cases now : m.next a.course with
  | marked calls blocked =>
    refine ⟨congrArg (· + 1) length, ?_⟩
    intro pair member
    rcases List.mem_cons.1 member with rfl | member
    · exact dated_marked now (calls_of_next now)
    · exact each pair member
  | told since call =>
    cases held with
    | nil => exact ⟨length, each⟩
    | cons first others =>
      cases moments with
      | nil => cases length
      | cons moment moments =>
        refine ⟨length, ?_⟩
        intro pair member
        rcases List.mem_cons.1 member with rfl | member
        · exact (each _ List.mem_cons_self).tail
        · exact each pair (List.mem_cons_of_mem _ member)
  | reported since report =>
    cases held with
    | nil =>
      cases moments with
      | nil => exact ⟨length, each⟩
      | cons moment moments => cases length
    | cons first others =>
      cases moments with
      | nil => cases length
      | cons moment moments =>
        refine ⟨Nat.succ.inj length, ?_⟩
        intro pair member
        exact each pair (List.mem_cons_of_mem _ member)
  | registered id receiver => exact ⟨length, each⟩
  | finished id final => exact ⟨length, each⟩
  | nothing => exact ⟨length, each⟩

theorem InStep.turn (inStep : a.InStep) (found : a.members[number]? = some m) :
    (a.turn number m).InStep := by
  intro other member
  rcases List.mem_or_eq_of_mem_set member with there | rfl
  · exact (inStep other there).turn
  · exact dated_turn_self (inStep m (List.mem_of_getElem? found))

theorem InStep.enter (inStep : a.InStep) (script : Script ε) : (a.enter script).InStep := by
  intro other member
  rcases List.mem_append.1 member with there | new
  · obtain ⟨length, each⟩ := inStep other there
    exact ⟨length, fun pair inside => ⟨(each pair inside).marked, (each pair inside).clear⟩⟩
  · rw [List.mem_singleton.1 new]
    exact ⟨rfl, by simp [rounds, Thread.ofScript]⟩

theorem Clear.arrange {since : Nat} {id : Identity} (clear : a.Clear since id)
    (key : Identity → Nat) : (a.arrange key).Clear since id :=
  clear.imp_left fun ended => ended.of_perm (a.course.registry.arrange_perm key).symm

theorem InStep.arrange (inStep : a.InStep) (key : Identity → Nat) : (a.arrange key).InStep := by
  intro other member
  obtain ⟨length, each⟩ := inStep other member
  refine ⟨length, fun pair inside => ⟨(each pair inside).marked, ?_⟩⟩
  intro call pending role earlier member before
  exact ((each pair inside).clear call pending role earlier member before).arrange key

/-- Every run keeps the rounds and the moments of their markings together. -/
theorem inStep_run (plan : Plan) (choices : List (Choice ε)) :
    ((Assembly.start plan).run choices).InStep := by
  apply run_induction (P := InStep)
  · intro a script inStep
    exact inStep.enter script
  · intro a key inStep
    exact inStep.arrange key
  · intro a number m found inStep
    exact inStep.turn found
  · intro m member
    cases member

/-! ## The moment of telling -/

/-- Whoever is about to tell somebody holds a dated round with that call to come first. -/
theorem InStep.round_of_told (inStep : a.InStep) {since : Nat} {call : Call (Script ε)}
    (next : a.next? number = some (.told since call)) :
    ∃ round others, a.Dated round since ∧ round.pending = call :: others := by
  obtain ⟨m, found, now⟩ := Option.map_eq_some_iff.1 next
  have dated := inStep m (List.mem_of_getElem? found)
  unfold Member.next at now
  split at now
  · cases now
  · rename_i script _ _
    cases script <;> cases now
  · rename_i round stack top
    split at now
    · rename_i first others pending
      rw [top] at dated
      obtain ⟨length, each⟩ := dated
      cases moments : m.since with
      | nil =>
        rw [moments] at length
        cases length
      | cons moment later =>
        rw [moments] at each now
        cases now
        exact ⟨round, others, each _ List.mem_cons_self, pending⟩
    · cases now

/-- When a member of a stage is told, each registered member of the stages before has ended,
unless it has been registered since the round marked. -/
theorem told_behind_barrier (plan : Plan) (choices : List (Choice ε)) {number since : Nat}
    {call : Call (Script ε)} {role : Role}
    (next : ((Assembly.start plan).run choices).next? number = some (.told since call))
    (member : call.id = .fixed role) :
    (∃ calls blocked, ((Assembly.start plan).run choices).history[since]? =
        some (.marked calls blocked) ∧ call ∈ calls) ∧
      ∀ earlier status, plan.Before earlier role →
        ((Assembly.start plan).run choices).course.registry.status? (.fixed earlier) =
          some status →
        status.isTerminal = true ∨
          ∃ time receiver, since < time ∧ ((Assembly.start plan).run choices).history[time]? =
            some (.registered (.fixed earlier) receiver) := by
  obtain ⟨round, others, dated, pending⟩ := (inStep_run plan choices).round_of_told next
  have first : call ∈ round.pending := by
    rw [pending]
    exact List.mem_cons_self
  constructor
  · obtain ⟨calls, marked, -, behind⟩ := dated.marked
    exact ⟨calls, round.blocked, marked, behind.subset first⟩
  · intro earlier status before found
    have inPlan : ((Assembly.start plan).run choices).course.plan.Before earlier role := by
      rw [plan_run]
      exact before
    rcases dated.clear call first role earlier member inPlan with ended | again
    · exact .inl (ended status found)
    · exact .inr again

/-- Two stages register, the first one ends its part, and a round marks the second. -/
def drill : List (Choice Unit) :=
  .enter (.register (.fixed .externalReceiveBridge) .done
    (.register (.fixed .messageController) .done
      (.markReady (.fixed .externalReceiveBridge) (.round .done)))) ::
    List.replicate 4 (.turn 0)

theorem told_behind_drill :
    ((Assembly.start .standard).run drill).next? 0 =
        some (.told 3 ⟨.fixed .messageController, .done⟩) ∧
      ∀ status, ((Assembly.start .standard).run drill).course.registry.status?
          (.fixed .externalReceiveBridge) = some status →
        status.isTerminal = true ∨
          ∃ time receiver, 3 < time ∧ ((Assembly.start .standard).run drill).history[time]? =
            some (.registered (.fixed .externalReceiveBridge) receiver) := by
  have next : ((Assembly.start .standard).run drill).next? 0 =
      some (.told 3 ⟨.fixed .messageController, .done⟩) := rfl
  have before : Plan.standard.Before .externalReceiveBridge .messageController :=
    ⟨0, 1, _, _, by decide, rfl, by decide, rfl, by decide⟩
  refine ⟨next, ?_⟩
  intro status found
  exact (told_behind_barrier .standard drill next rfl).2 _ status before found

end Assembly

end Telematics.Shutdown
