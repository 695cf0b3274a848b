/-
# Telematics.Proofs.Shutdown.Belated -- what a telling finds

A round settles whom it tells when it marks, and tells them one after the other.
By the time somebody's turn comes, others may have registered it again or ended
its part: the receivers told before, other rounds, anybody.

What is certain is how it was at the marking: the registered receiver is told of
a participant that was subscribed and was made notified.  That is still so at the
telling exactly if nobody has touched the participant in between, and only a
round that had marked before tells who has been ended or replaced
(`told_as_marked`).  Such a round does tell them: a participant that has
withdrawn, and the old receiver of one that has registered again
(`told_after_withdrawal`).
-/
import Telematics.Proofs.Shutdown.Account
import Telematics.Proofs.Shutdown.Once

namespace Telematics.Shutdown

set_option autoImplicit false

variable {ε : Type}

/-- Somebody registers a participant, or ends its part. -/
def Happening.Touches (id : Identity) : Happening ε → Prop
  | .registered who _ => who = id
  | .finished who _ => who = id
  | _ => False

/-- Nobody has touched a participant between two moments. -/
def Untouched (history : List (Happening ε)) (start finish : Nat) (id : Identity) : Prop :=
  ∀ time happening, start < time → time < finish → history[time]? = some happening →
    ¬ happening.Touches id

namespace Assembly

/-- Each telling comes after the marking that it belongs to. -/
def Ordered (a : Assembly ε) : Prop :=
  ∀ (time since : Nat) (call : Call (Script ε)), a.history[time]? = some (.told since call) →
    since < time

theorem Ordered.turn {a : Assembly ε} {number : Nat} {m : Member ε} (ordered : a.Ordered)
    (inStep : a.InStep) (found : a.members[number]? = some m) : (a.turn number m).Ordered := by
  intro time since call there
  rw [turn_history] at there
  rcases getElem?_concat_cases there with ⟨-, there⟩ | ⟨rfl, now⟩
  · exact ordered time since call there
  · have next : a.next? number = some (.told since call) := by
      rw [next?, found]
      exact congrArg some now
    obtain ⟨round, others, dated, -⟩ := inStep.round_of_told next
    exact dated.past

theorem ordered_run (plan : Plan) (choices : List (Choice ε)) :
    ((start plan).run choices).Ordered := by
  have both : ((start plan).run choices).InStep ∧ ((start plan).run choices).Ordered := by
    apply run_induction (P := fun a : Assembly ε => a.InStep ∧ a.Ordered)
    · rintro a script ⟨inStep, ordered⟩
      exact ⟨inStep.enter script, ordered⟩
    · rintro a key ⟨inStep, ordered⟩
      exact ⟨inStep.arrange key, ordered⟩
    · rintro a number m found ⟨inStep, ordered⟩
      exact ⟨inStep.turn found, ordered.turn inStep found⟩
    · exact ⟨inStep_run plan [], fun time since call there => by cases there⟩
  exact both.2

end Assembly

section Run

variable (plan : Plan) (choices : List (Choice ε)) {birth since time : Nat}
  {calls : List (Call (Script ε))} {blocked : Option Nat} {call : Call (Script ε)}

/-- Whoever is called has not been ended since it was registered. -/
theorem going_of_called (marked : (historyOf plan choices)[since]? = some (.marked calls blocked))
    (called : call ∈ calls)
    (inForce : InForce (historyOf plan choices) birth since call.id call.receiver) :
    Going (historyOf plan choices) birth since call.id := by
  have fitting := fitting_history plan choices
  have past := Nat.le_of_lt (List.getElem?_eq_some_iff.1 marked).1
  obtain ⟨status, found, standing⟩ := find?_of_inForce fitting past inForce
  cases found.symm.trans (called_at plan choices marked called).1
  exact standing.going fitting.final rfl

/-- The registration that a round has called is still in force, and notified, exactly as long as
nobody touches the participant. -/
theorem notified_iff_untouched
    (marked : (historyOf plan choices)[since]? = some (.marked calls blocked))
    (called : call ∈ calls)
    (inForce : InForce (historyOf plan choices) birth since call.id call.receiver)
    (order : since < time) (past : time ≤ (historyOf plan choices).length) :
    (InForce (historyOf plan choices) birth time call.id call.receiver ∧
        (registryAt plan (historyOf plan choices) time).find? call.id =
          some ⟨call.id, call.receiver, .notified⟩) ↔
      Untouched (historyOf plan choices) since time call.id := by
  have fitting := fitting_history plan choices
  have going := going_of_called plan choices marked called inForce
  constructor
  · rintro ⟨still, notified⟩ moment happening after before there touches
    obtain ⟨status, found, standing⟩ := find?_of_inForce fitting past still
    cases found.symm.trans notified
    have open_ := standing.going fitting.final rfl
    cases happening with
    | registered who receiver =>
      cases (show who = call.id from touches)
      exact still.last moment receiver (Nat.lt_trans inForce.before after) before there
    | finished who final =>
      cases (show who = call.id from touches)
      exact open_ moment final (Nat.lt_trans inForce.before after) before there
    | _ => exact touches
  · intro untouched
    have still : InForce (historyOf plan choices) birth time call.id call.receiver := by
      refine ⟨inForce.born, Nat.lt_trans inForce.before order, ?_⟩
      intro moment other after before there
      rcases Nat.lt_trichotomy moment since with sooner | rfl | later
      · exact inForce.last moment other after sooner there
      · cases marked.symm.trans there
      · exact untouched moment _ later before there rfl
    have open_ : Going (historyOf plan choices) birth time call.id := by
      intro moment final after before there
      rcases Nat.lt_trichotomy moment since with sooner | rfl | later
      · exact going moment final after sooner there
      · cases marked.symm.trans there
      · exact untouched moment _ later before there rfl
    have markedIn : MarkedIn (historyOf plan choices) birth time call.id :=
      ⟨since, calls, blocked, inForce.before, order, marked, List.mem_map_of_mem called⟩
    obtain ⟨status, found, standing⟩ := find?_of_inForce fitting past still
    cases standing.unique (.told open_ markedIn)
    exact ⟨still, found⟩

/-- Who has been touched since its registration is called only by a round that had marked before. -/
theorem marked_before_touched {ending : Nat} {happening : Happening ε}
    (marked : (historyOf plan choices)[since]? = some (.marked calls blocked))
    (called : call ∈ calls)
    (inForce : InForce (historyOf plan choices) birth since call.id call.receiver)
    (after : birth < ending) (there : (historyOf plan choices)[ending]? = some happening)
    (touches : happening.Touches call.id) : since < ending := by
  rcases Nat.lt_trichotomy ending since with sooner | rfl | later
  · cases happening with
    | registered who receiver =>
      cases (show who = call.id from touches)
      exact absurd there (inForce.last ending receiver after sooner)
    | finished who final =>
      cases (show who = call.id from touches)
      exact absurd there (going_of_called plan choices marked called inForce ending final after
        sooner)
    | _ => exact touches.elim
  · cases marked.symm.trans there
    exact touches.elim
  · exact later

end Run

/-- **A telling finds the participant as it was marked, unless somebody has touched it since.**  The
receiver that is told was registered and waiting when the round marked, and was made notified then.
It is still the registered one, and notified, exactly if nobody has touched the participant in
between; and a participant that was touched after its registration is told by that registration only
if the round had marked before. -/
theorem told_as_marked (plan : Plan) (choices : List (Choice ε)) (time since : Nat)
    (call : Call (Script ε))
    (there : (historyOf plan choices)[time]? = some (.told since call)) :
    since < time ∧
    (registryAt plan (historyOf plan choices) since).find? call.id =
      some ⟨call.id, call.receiver, .subscribed⟩ ∧
    (registryAt plan (historyOf plan choices) (since + 1)).find? call.id =
      some ⟨call.id, call.receiver, .notified⟩ ∧
    ∃ birth, InForce (historyOf plan choices) birth since call.id call.receiver ∧
      ((InForce (historyOf plan choices) birth time call.id call.receiver ∧
          (registryAt plan (historyOf plan choices) time).find? call.id =
            some ⟨call.id, call.receiver, .notified⟩) ↔
        Untouched (historyOf plan choices) since time call.id) ∧
      ∀ ending happening, birth < ending → (historyOf plan choices)[ending]? = some happening →
        happening.Touches call.id → since < ending := by
  obtain ⟨calls, blocked, marked, called, -⟩ := marked_of_told plan choices there
  obtain ⟨birth, inForce⟩ := inForce_of_called plan choices marked called
  have order := Assembly.ordered_run plan choices time since call there
  have past := Nat.le_of_lt (List.getElem?_eq_some_iff.1 there).1
  have next : since + 1 ≤ (historyOf plan choices).length := Nat.le_trans order past
  have nobody : Untouched (historyOf plan choices) since (since + 1) call.id := by
    intro moment happening after before
    omega
  refine ⟨order, (called_at plan choices marked called).1, ?_, birth, inForce, ?_, ?_⟩
  · exact ((notified_iff_untouched plan choices marked called inForce (Nat.lt_succ_self since)
      next).2 nobody).2
  · exact notified_iff_untouched plan choices marked called inForce order past
  · intro ending happening after there touches
    exact marked_before_touched plan choices marked called inForce after there touches

/-- The first one that is told withdraws the second and registers the third anew. -/
def rebuff : List (Choice Unit) :=
  .enter (.register (.fixed .externalReceiveBridge)
      (.withdraw (.fixed .notificationListener)
        (.register (.fixed .midHandler) (.idle .done) .done))
    (.register (.fixed .notificationListener) .done
      (.register (.fixed .midHandler) .done (.round .done)))) ::
    List.replicate 11 (.turn 0)

/-- The first one is told as it was marked. -/
theorem told_as_marked_rebuff :
    ∃ receiver, (historyOf .standard rebuff)[4]? =
        some (.told 3 ⟨.fixed .externalReceiveBridge, receiver⟩) ∧
      (registryAt .standard (historyOf .standard rebuff) 4).find? (.fixed .externalReceiveBridge) =
        some ⟨.fixed .externalReceiveBridge, receiver, .notified⟩ := by
  have nobody : Untouched (historyOf .standard rebuff) 3 4 (.fixed .externalReceiveBridge) := by
    intro moment happening after before
    omega
  obtain ⟨-, -, -, birth, -, still, -⟩ :=
    told_as_marked .standard rebuff 4 3 ⟨.fixed .externalReceiveBridge, _⟩ rfl
  exact ⟨_, rfl, (still.2 nobody).2⟩

/-- **Who has withdrawn is told all the same**, and so is the old receiver of a participant that has
registered again and waits to be told. -/
theorem told_after_withdrawal :
    ((historyOf .standard rebuff)[8]? = some (.told 3 ⟨.fixed .notificationListener, .done⟩) ∧
      (registryAt .standard (historyOf .standard rebuff) 8).status? (.fixed .notificationListener) =
        some .unsubscribed) ∧
    (historyOf .standard rebuff)[10]? = some (.told 3 ⟨.fixed .midHandler, .done⟩) ∧
      (registryAt .standard (historyOf .standard rebuff) 10).find? (.fixed .midHandler) =
        some ⟨.fixed .midHandler, .idle .done, .subscribed⟩ :=
  ⟨⟨rfl, rfl⟩, rfl, rfl⟩

end Telematics.Shutdown
