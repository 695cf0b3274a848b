/-
# Telematics.Proofs.Shutdown.Once -- each registration is told once

Marking and telling are apart, and in between others may mark, register and end
what they like.  Still a registration is told once at most, and a round that is
over has told just those that its own marking made notified out of subscribed,
in the order of its report (`told_once_per_registration`).

Two rounds that told the same registration would both have found it subscribed
when they marked.  But the earlier one left it notified, and only registering
anew brings back who has been told, which begins another registration
(`same_round`).  Within a round nobody is called twice (`same_time`).
-/
import Telematics.Proofs.Shutdown.Telling

namespace Telematics.Shutdown

set_option autoImplicit false

variable {ε : Type}

/-- At the moment `time` somebody is told by the registration that was made at the moment `birth`
and was in force when the round marked. -/
def Told (history : List (Happening ε)) (time birth : Nat) : Prop :=
  ∃ since call, history[time]? = some (.told since call) ∧
    InForce history birth since call.id call.receiver

/-- The receivers that the course has run are those that have been told, in order. -/
theorem calls_run (plan : Plan) (choices : List (Choice ε)) :
    ((Assembly.start plan).run choices).course.calls.map CallRecord.id =
      (historyOf plan choices).flatMap Happening.whom := by
  apply Assembly.run_induction
    (P := fun a => a.course.calls.map CallRecord.id = a.history.flatMap Happening.whom)
  · intro a script same
    exact same
  · intro a key same
    exact same
  · intro a number m _ same
    have step : (a.turn number m).course.calls.map CallRecord.id =
        a.course.calls.map CallRecord.id ++ (m.next a.course).whom := told_step a.course m
    rw [step, same, Assembly.turn_history, List.flatMap_append, List.flatMap_singleton]
  · rfl

section Run

variable (plan : Plan) (choices : List (Choice ε))

/-- Whoever is told is one of those that the round has called. -/
theorem marked_of_told {time since : Nat} {call : Call (Script ε)}
    (there : (historyOf plan choices)[time]? = some (.told since call)) :
    ∃ calls blocked, (historyOf plan choices)[since]? = some (.marked calls blocked) ∧
      call ∈ calls ∧ tellings (historyOf plan choices) since <+: calls := by
  have telling : call ∈ tellings (historyOf plan choices) since :=
    mem_tellings.2 (List.mem_of_getElem? there)
  rcases (Assembly.tallied_run plan choices).told since with none | ⟨calls, blocked, marked, begun⟩
  · rw [historyOf, none] at telling
    cases telling
  · exact ⟨calls, blocked, marked, begun.subset telling, begun⟩

/-- Whoever is called is subscribed, by the receiver that is registered, and then notified. -/
theorem called_at {since : Nat} {calls : List (Call (Script ε))} {blocked : Option Nat}
    {call : Call (Script ε)}
    (marked : (historyOf plan choices)[since]? = some (.marked calls blocked))
    (called : call ∈ calls) :
    (registryAt plan (historyOf plan choices) since).find? call.id =
        some ⟨call.id, call.receiver, .subscribed⟩ ∧
      (registryAt plan (historyOf plan choices) (since + 1)).status? call.id = some .notified := by
  obtain ⟨same, -⟩ := fits_history plan choices marked
  have here := same.mem_iff.1 called
  refine ⟨Registry.find?_of_mem_calls here, ?_⟩
  rw [registryAt_succ plan marked]
  exact (Registry.mem_calls_iff.1 (List.mem_map_of_mem here)).2

theorem inForce_of_called {since : Nat} {calls : List (Call (Script ε))} {blocked : Option Nat}
    {call : Call (Script ε)}
    (marked : (historyOf plan choices)[since]? = some (.marked calls blocked))
    (called : call ∈ calls) :
    ∃ birth, InForce (historyOf plan choices) birth since call.id call.receiver := by
  have past : since < (historyOf plan choices).length := (List.getElem?_eq_some_iff.1 marked).1
  apply exists_inForce plan (Nat.le_of_lt past)
  rw [Registry.receiver?, (called_at plan choices marked called).1]
  rfl

theorem told_of_telling {time since : Nat} {call : Call (Script ε)}
    (there : (historyOf plan choices)[time]? = some (.told since call)) :
    ∃ birth, InForce (historyOf plan choices) birth since call.id call.receiver := by
  obtain ⟨calls, blocked, marked, called, -⟩ := marked_of_told plan choices there
  exact inForce_of_called plan choices marked called

/-- A registration is called by one round only. -/
theorem not_called_again {birth since later : Nat} {calls calls' : List (Call (Script ε))}
    {blocked blocked' : Option Nat} {call call' : Call (Script ε)} (order : since < later)
    (marked : (historyOf plan choices)[since]? = some (.marked calls blocked))
    (called : call ∈ calls)
    (marked' : (historyOf plan choices)[later]? = some (.marked calls' blocked'))
    (called' : call' ∈ calls') (same : call'.id = call.id)
    (first : InForce (historyOf plan choices) birth since call.id call.receiver)
    (second : InForce (historyOf plan choices) birth later call'.id call'.receiver) : False := by
  have notified := (called_at plan choices marked called).2
  have subscribed := (called_at plan choices marked' called').1
  have past : later < (historyOf plan choices).length := (List.getElem?_eq_some_iff.1 marked').1
  have still : (registryAt plan (historyOf plan choices) later).status? call.id ≠
      some .subscribed := by
    apply not_subscribed_until plan choices order (Nat.le_of_lt past)
    · rw [notified]
      simp
    · intro time other after before
      rw [← same]
      exact second.last time other (Nat.lt_of_lt_of_le first.before (Nat.le_of_lt after)) before
  apply still
  rw [← same, Registry.status?, subscribed]
  rfl

theorem same_round {birth since since' time time' : Nat} {call call' : Call (Script ε)}
    (there : (historyOf plan choices)[time]? = some (.told since call))
    (there' : (historyOf plan choices)[time']? = some (.told since' call'))
    (inForce : InForce (historyOf plan choices) birth since call.id call.receiver)
    (inForce' : InForce (historyOf plan choices) birth since' call'.id call'.receiver) :
    since = since' ∧ call.id = call'.id := by
  have same : call.id = call'.id := by
    have born := inForce.born.symm.trans inForce'.born
    exact (Happening.registered.inj (Option.some.inj born)).1
  obtain ⟨calls, blocked, marked, called, -⟩ := marked_of_told plan choices there
  obtain ⟨calls', blocked', marked', called', -⟩ := marked_of_told plan choices there'
  rcases Nat.lt_trichotomy since since' with less | equal | greater
  · exact (not_called_again plan choices less marked called marked' called' same.symm inForce
      inForce').elim
  · exact ⟨equal, same⟩
  · exact (not_called_again plan choices greater marked' called' marked called same inForce'
      inForce).elim

/-- A round tells nobody twice. -/
theorem same_time {since time time' : Nat} {call call' : Call (Script ε)}
    (there : (historyOf plan choices)[time]? = some (.told since call))
    (there' : (historyOf plan choices)[time']? = some (.told since call'))
    (same : call.id = call'.id) : time = time' := by
  obtain ⟨calls, blocked, marked, -, begun⟩ := marked_of_told plan choices there
  obtain ⟨called, -⟩ := fits_history plan choices marked
  have all : (calls.map Call.id).Nodup :=
    (called.map Call.id).nodup_iff.2 (Registry.nodup_calls _ plan)
  have once : ((tellings (historyOf plan choices) since).map Call.id).Nodup :=
    all.sublist (begun.sublist.map Call.id)
  have apart : ∀ {early late : Nat} {first second : Call (Script ε)}, early < late →
      (historyOf plan choices)[early]? = some (.told since first) →
      (historyOf plan choices)[late]? = some (.told since second) → first.id ≠ second.id := by
    intro early late first second order atEarly atLate
    have split := List.take_append_drop late (historyOf plan choices)
    have front : first ∈ tellings ((historyOf plan choices).take late) since := by
      apply mem_tellings.2 (List.mem_of_getElem? (i := early) _)
      rwa [List.getElem?_take_of_lt order]
    have back : second ∈ tellings ((historyOf plan choices).drop late) since := by
      apply mem_tellings.2 (List.mem_of_getElem? (i := 0) _)
      rwa [List.getElem?_drop]
    rw [← split, tellings, List.filterMap_append, List.map_append, List.nodup_append] at once
    exact once.2.2 _ (List.mem_map_of_mem front) _ (List.mem_map_of_mem back)
  rcases Nat.lt_trichotomy time time' with less | equal | greater
  · exact absurd same (apart less there there')
  · exact equal
  · exact absurd same.symm (apart greater there' there)

/-- A round that is over has told all whom it has called, before it was over. -/
theorem tellings_of_reported {time since : Nat} {report : Report}
    (there : (historyOf plan choices)[time]? = some (.reported since report)) :
    (historyOf plan choices)[since]? =
        some (.marked (tellings (historyOf plan choices) since) report.blocked) ∧
      report.notified = (tellings (historyOf plan choices) since).map Call.id ∧
      tellings ((historyOf plan choices).take time) since =
        tellings (historyOf plan choices) since := by
  have tallied := Assembly.tallied_run plan choices
  obtain ⟨marked, notified⟩ := tallied.reported time since report there
  have sooner : tellings ((historyOf plan choices).take time) since <+:
      tellings (historyOf plan choices) since :=
    (List.take_prefix _ _).filterMap _
  have whole : tellings (historyOf plan choices) since =
      tellings ((historyOf plan choices).take time) since := by
    rcases tallied.told since with none | ⟨calls, blocked, also, begun⟩
    · have unseen := none ▸ sooner
      exact none.trans (List.prefix_nil.1 unseen).symm
    · cases marked.symm.trans also
      exact begun.eq_of_length_le sooner.length_le
  rw [whole]
  exact ⟨marked, notified, rfl⟩

end Run

/-- **Each registration is told once at most**, and what a round has told when it is over is what
it reports: just those that its marking made notified out of subscribed. -/
theorem told_once_per_registration (plan : Plan) (choices : List (Choice ε)) :
    (∀ (time since : Nat) (call : Call (Script ε)),
      (historyOf plan choices)[time]? = some (.told since call) →
      ∃ birth, InForce (historyOf plan choices) birth since call.id call.receiver) ∧
    (∀ birth birth' time time', Told (historyOf plan choices) time birth →
      Told (historyOf plan choices) time' birth' → (time = time' ↔ birth = birth')) ∧
    ∀ (time since : Nat) (report : Report),
      (historyOf plan choices)[time]? = some (.reported since report) →
      (∃ calls, (historyOf plan choices)[since]? = some (.marked calls report.blocked)) ∧
        (tellings (historyOf plan choices) since).map Call.id = report.notified ∧
        tellings ((historyOf plan choices).take time) since =
          tellings (historyOf plan choices) since ∧
        report.notified.Nodup ∧
        ∀ id, id ∈ report.notified ↔
          (registryAt plan (historyOf plan choices) since).status? id = some .subscribed ∧
          (registryAt plan (historyOf plan choices) (since + 1)).status? id = some .notified := by
  refine ⟨fun time since call there => told_of_telling plan choices there, ?_, ?_⟩
  · rintro birth birth' time time' ⟨since, call, there, inForce⟩ ⟨since', call', there', inForce'⟩
    constructor
    · rintro rfl
      cases there.symm.trans there'
      exact inForce.birth_unique inForce'
    · rintro rfl
      obtain ⟨rfl, same⟩ := same_round plan choices there there' inForce inForce'
      exact same_time plan choices there there' same
  · intro time since report there
    obtain ⟨marked, notified, sooner⟩ := tellings_of_reported plan choices there
    have called := (fits_history plan choices marked).1.map Call.id
    refine ⟨⟨_, marked⟩, notified.symm, sooner, ?_, ?_⟩
    · rw [notified, called.nodup_iff]
      exact Registry.nodup_calls _ plan
    · intro id
      rw [notified, called.mem_iff, registryAt_succ plan marked]
      exact Registry.mem_calls_iff

/-- A participant is told, registers again, and is told by another round. -/
def encore : List (Choice Unit) :=
  .enter (.register (.fixed .midHandler) .done
    (.round (.register (.fixed .midHandler) .done (.round .done)))) ::
    List.replicate 10 (.turn 0)

/-- Both registrations are told, each at one moment. -/
theorem told_once_encore :
    Told (historyOf .standard encore) 2 0 ∧ Told (historyOf .standard encore) 7 5 ∧
      (∀ time, Told (historyOf .standard encore) time 0 → time = 2) ∧
      ∀ time, Told (historyOf .standard encore) time 5 → time = 7 := by
  obtain ⟨-, once, -⟩ := told_once_per_registration .standard encore
  have first : Told (historyOf .standard encore) 2 0 := by
    refine ⟨1, ⟨.fixed .midHandler, .done⟩, rfl, rfl, by decide, ?_⟩
    intro time other later sooner
    omega
  have second : Told (historyOf .standard encore) 7 5 := by
    refine ⟨6, ⟨.fixed .midHandler, .done⟩, rfl, rfl, by decide, ?_⟩
    intro time other later sooner
    omega
  exact ⟨first, second, fun time told => (once 0 0 time 2 told first).2 rfl,
    fun time told => (once 5 5 time 7 told second).2 rfl⟩

end Telematics.Shutdown
