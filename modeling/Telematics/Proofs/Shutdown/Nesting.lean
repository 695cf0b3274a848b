/-
# Telematics.Proofs.Shutdown.Nesting -- rounds that are held within rounds

A receiver that is told may hold a round of its own, which tells others, and so
on.  As long as nobody registers this comes to an end by itself: each participant
who is told was subscribed, and none is subscribed again.  So the calls that have
been made and those that are still to be made, together with the participants who
wait, are never more than those who waited at first (`Thrifty`).

A round within another one is held by a receiver that has been told and is still
at work.  So there is at most one round more than receivers at work, and of these
no more than have been told (`Thrifty.depth_le`).  Whoever calls for a round gets
its report (`exists_handed`), whatever those do who are told, and this holds for
the rounds within it as well (`rounds_return`).
-/
import Telematics.Proofs.Shutdown.Own

namespace Telematics.Shutdown

set_option autoImplicit false

variable {ρ ε : Type}

/-! ## Who waits to be told -/

namespace Registry

/-- How many participants are subscribed. -/
def waiting (r : Registry ρ) : Nat :=
  r.entries.countP (·.status = .subscribed)

theorem waiting_mapStatus_le (r : Registry ρ) {f : Entry ρ → Status}
    (waited : ∀ e, f e = .subscribed → e.status = .subscribed) :
    (r.mapStatus f).waiting ≤ r.waiting := by
  unfold waiting mapStatus
  rw [List.countP_map]
  apply List.countP_mono_left
  intro e _ after
  simpa using waited e (by simpa using after)

theorem waiting_finish_le (r : Registry ρ) (id : Identity) {final : Status}
    (ends : final ≠ .subscribed) : (r.finish id final).1.waiting ≤ r.waiting := by
  rw [finish_eq]
  apply waiting_mapStatus_le
  intro e after
  split at after
  · unfold Status.advance at after
    split at after
    · exact after
    · exact absurd after ends
  · exact after

/-- Those whom marking calls are just those who wait no longer. -/
theorem waiting_mark (r : Registry ρ) (plan : Plan) :
    (r.mark plan).registry.waiting + (r.mark plan).calls.length = r.waiting := by
  let reached : Entry ρ → Bool := fun e => e.status = .subscribed ∧ r.reaches plan e.id = true
  have called : (r.mark plan).calls.length = r.entries.countP reached := by
    have once : ((r.entries.filter reached).map Entry.id).Nodup :=
      r.nodup.sublist (List.filter_sublist.map Entry.id)
    have same :
        ((r.mark plan).calls.map Call.id).Perm ((r.entries.filter reached).map Entry.id) := by
      rw [List.perm_ext_iff_of_nodup (r.nodup_calls plan) once]
      intro id
      rw [mem_calls_iff_reaches, status?_eq_some_iff]
      simp only [List.mem_map, List.mem_filter, reached, decide_eq_true_eq]
      constructor
      · rintro ⟨⟨e, member, rfl, waits⟩, within⟩
        exact ⟨e, ⟨member, waits, within⟩, rfl⟩
      · rintro ⟨e, ⟨member, waits, within⟩, rfl⟩
        exact ⟨⟨e, member, rfl, waits⟩, within⟩
    simpa [List.countP_eq_length_filter] using same.length_eq
  rw [called, waiting, waiting, entries_mark, List.countP_map]
  generalize r.entries = entries
  induction entries with
  | nil => rfl
  | cons e entries ih =>
    by_cases waits : e.status = .subscribed
    · by_cases within : r.reaches plan e.id = true
      · simp [reached, waits, within] at ih ⊢
        omega
      · simp [reached, waits, within] at ih ⊢
        omega
    · simpa [reached, waits] using ih

end Registry

/-! ## Who brings in nobody -/

/-- The script registers nobody, whatever else it does. -/
def Script.BringsNobody : Script ε → Prop
  | .done => True
  | .register _ _ _ => False
  | .markReady _ next | .withdraw _ next | .observe _ next | .registerNobody _ next | .round next
  | .perform _ next | .idle next => next.BringsNobody

/-- What a thread does registers nobody. -/
def Activity.BringsNobody : Activity ε → Prop
  | .acting _ script => script.BringsNobody
  | .notifying round => ∀ call ∈ round.pending, call.receiver.BringsNobody

namespace Registry

/-- Nobody's receiver registers anybody. -/
def BringsNobody (r : Registry (Script ε)) : Prop :=
  ∀ e ∈ r.entries, e.receiver.BringsNobody

variable {r : Registry (Script ε)}

theorem BringsNobody.mapStatus (modest : r.BringsNobody) (f : Entry (Script ε) → Status) :
    (r.mapStatus f).BringsNobody := by
  intro e member
  obtain ⟨e', before, rfl⟩ := List.mem_map.1 member
  exact modest e' before

theorem BringsNobody.finish (modest : r.BringsNobody) (id : Identity) (final : Status) :
    (r.finish id final).1.BringsNobody := by
  rw [finish_eq]
  exact modest.mapStatus _

theorem BringsNobody.mark (modest : r.BringsNobody) (plan : Plan) :
    (r.mark plan).registry.BringsNobody := by
  rw [registry_mark]
  exact modest.mapStatus _

theorem BringsNobody.calls (modest : r.BringsNobody) {plan : Plan} {call : Call (Script ε)}
    (called : call ∈ (r.mark plan).calls) : call.receiver.BringsNobody :=
  modest _ (find?_eq_some_iff.1 (find?_of_mem_calls called)).1

end Registry

/-! ## What a step spends -/

/-- How many are still to be told. -/
def Activity.pending : Activity ε → Nat
  | .acting _ _ => 0
  | .notifying round => round.pending.length

/-- How many receivers are at work. -/
def Activity.atWork : Activity ε → Nat
  | .acting who _ => if who.isSome then 1 else 0
  | .notifying _ => 0

/-- A round that is held within another one is held by a receiver at work.  Where one is at work on
top of the stack, it has not held its round yet. -/
theorem Nested.length_rounds_add_le {inner : List (Activity ε)} (nested : Nested inner) :
    (rounds inner).length + total Activity.atWork (inner.take 1) ≤
      total Activity.atWork inner := by
  induction nested with
  | nil => exact Nat.le_refl _
  | acting nested before =>
    simp [rounds, Activity.atWork] at before ⊢
    omega
  | notifying nested before =>
    simp [rounds, Activity.atWork] at before ⊢
    omega

/-- What a step leads to that puts `new` in the place of the top of the stack: it registers nobody,
and spends those who wait and those who are still to be told on those who are told. -/
structure Spends (course : Course ε) (top : Activity ε) (after : Course ε)
    (new : List (Activity ε)) : Prop where
  modest : ∀ activity ∈ new, activity.BringsNobody
  others : after.registry.BringsNobody
  spent : after.calls.length + total Activity.pending new + after.registry.waiting ≤
    course.calls.length + top.pending + course.registry.waiting
  working : course.calls.length + total Activity.atWork new ≤ after.calls.length + top.atWork

/-- An action that tells nobody. -/
theorem spends_of_acting {course after : Course ε} {who : Option Nat} {script next : Script ε}
    (modest : next.BringsNobody) (others : after.registry.BringsNobody)
    (told : after.calls.length = course.calls.length)
    (fewer : after.registry.waiting ≤ course.registry.waiting) :
    Spends course (.acting who script) after [.acting who next] where
  modest := List.forall_mem_singleton.2 modest
  others := others
  spent := by simpa [told, Activity.pending] using fewer
  working := by simp [told, Activity.atWork]

namespace Course

@[simp] theorem length_calls_record (who : Option Nat) (outcome : Outcome)
    (s : Course ε × Thread ε) : (record who outcome s).1.calls.length = s.1.calls.length := by
  cases who <;> simp [record]

@[simp] theorem length_calls_operate (result : Registry (Script ε) × Bool × List Notice)
    (s : Course ε × Thread ε) : (operate result s).1.calls.length = s.1.calls.length := by
  simp [operate]

variable {course : Course ε} {thread : Thread ε}

/-- Every step of a thread that registers nobody spends. -/
theorem exists_spends {top : Activity ε} {rest : List (Activity ε)}
    (stack : thread.stack = top :: rest) (modest : top.BringsNobody)
    (others : course.registry.BringsNobody) :
    ∃ new, (step (course, thread)).2.stack = new ++ rest ∧
      Spends course top (step (course, thread)).1 new := by
  cases top with
  | acting who script =>
    rw [step_of_acting course stack]
    cases script with
    | done => exact ⟨[], rfl, by simp, others, by simp [act], by simp [act]⟩
    | register id receiver next => exact modest.elim
    | markReady id next =>
      refine ⟨[.acting who next], by simp [act], spends_of_acting modest ?_ ?_ ?_⟩
      · rw [act, operate_registry]
        exact others.finish id _
      · simp [act]
      · rw [act, operate_registry]
        exact course.registry.waiting_finish_le id (by decide)
    | withdraw id next =>
      refine ⟨[.acting who next], by simp [act], spends_of_acting modest ?_ ?_ ?_⟩
      · rw [act, operate_registry]
        exact others.finish id _
      · simp [act]
      · rw [act, operate_registry]
        exact course.registry.waiting_finish_le id (by decide)
    | observe id next | registerNobody id next | perform effect next | idle next =>
      refine ⟨[.acting who next], by simp [act], spends_of_acting modest ?_ ?_ ?_⟩
      · simpa [act, Registry.register] using others
      · simp [act]
      · simp [act, Registry.register]
    | round next =>
      refine ⟨[.notifying _, .acting who next], rfl, ?_, others.mark course.plan, ?_, ?_⟩
      · rw [List.forall_mem_cons, List.forall_mem_singleton]
        exact ⟨fun call called => others.calls called, modest⟩
      · have fewer := course.registry.waiting_mark course.plan
        simp [act, Activity.pending]
        omega
      · simp [act, Activity.atWork]
  | notifying round =>
    rw [step_of_notifying course stack]
    unfold notify
    split
    · rename_i call pending more
      refine ⟨[.acting (some course.calls.length) call.receiver, .notifying { round with pending }],
        rfl, ?_, others, ?_, ?_⟩
      · rw [Activity.BringsNobody, more, List.forall_mem_cons] at modest
        rw [List.forall_mem_cons, List.forall_mem_singleton]
        exact modest
      · simp [Activity.pending, more]
        omega
      · simp [Activity.atWork]
    · exact ⟨[], by simp, by simp, by simpa using others, by simp, by simp⟩

/-! ## Until a round is over -/

/-- A thread that stays in some condition until it comes to another one gets there. -/
theorem exists_steps {P Q : Course ε × Thread ε → Prop}
    (onward : ∀ s, P s → s.2.stack ≠ [] ∧ (P (step s) ∨ Q (step s)))
    {s : Course ε × Thread ε} (first : P s) :
    ∃ n, Q (steps (n + 1) s) ∧ ∀ m ≤ n, P (steps m s) := by
  induction left : work s using Nat.strongRecOn generalizing s with
  | _ left' ih =>
    subst left
    obtain ⟨going, stays | comes⟩ := onward s first
    · obtain ⟨n, last, before⟩ := ih _ (work_step_lt s going) stays rfl
      refine ⟨n + 1, by rwa [steps_succ _ going], ?_⟩
      intro m early
      cases m with
      | zero => exact first
      | succ m =>
        rw [steps_succ m going]
        exact before m (by omega)
    · refine ⟨0, by rwa [steps_succ 0 going], ?_⟩
      intro m early
      obtain rfl : m = 0 := by omega
      exact first

theorem steps_add (m n : Nat) (s : Course ε × Thread ε) :
    steps (m + n) s = steps n (steps m s) := by
  induction m generalizing s with
  | zero => simp [steps]
  | succ m ih =>
    by_cases empty : s.2.stack = []
    · rw [steps_of_nil _ empty, steps_of_nil _ empty, steps_of_nil _ empty]
    · rw [Nat.add_right_comm, steps_succ _ empty, steps_succ _ empty, ih]

/-- The round that somebody called for in the state `s` is over: whoever called for it has been
handed its report and goes on. -/
def Handed (s : Course ε × Thread ε) (who : Option Nat) (next : Script ε)
    (below : List (Activity ε)) (after : Course ε × Thread ε) : Prop :=
  ∃ (course : Course ε) (thread : Thread ε), thread.stack = .acting who next :: below ∧
    after = record who (.report ⟨(s.1.registry.mark s.1.plan).calls.map Call.id,
      (s.1.registry.mark s.1.plan).blocked, course.registry.isComplete course.plan⟩)
      (course, thread)

/-- The round that somebody called for in the state `s` is being held, and what lies above it on
the stack is for those whom it has told. -/
def Inside (s : Course ε × Thread ε) (base : List (Activity ε)) (now : Course ε × Thread ε) :
    Prop :=
  ∃ inner pending, Nested inner ∧ now.2.stack = inner ++ .notifying
    ⟨(s.1.registry.mark s.1.plan).calls.map Call.id, pending, (s.1.registry.mark s.1.plan).blocked⟩
      :: base

section Round

variable {s now : Course ε × Thread ε} {who : Option Nat} {next : Script ε}
  {base below : List (Activity ε)}

theorem Inside.going (inside : Inside s base now) : now.2.stack ≠ [] := by
  obtain ⟨inner, pending, -, stack⟩ := inside
  simp [stack]

theorem Inside.step (inside : Inside s (.acting who next :: below) now) :
    Inside s (.acting who next :: below) (step now) ∨ Handed s who next below (step now) := by
  obtain ⟨course, thread⟩ := now
  obtain ⟨inner, pending, nested, stack⟩ := inside
  cases inner with
  | cons top inner =>
    obtain ⟨-, after, nested, stack⟩ := nested.step course stack
    exact .inl ⟨after, pending, nested, stack⟩
  | nil =>
    rw [step_of_notifying course stack]
    cases pending with
    | cons call pending => exact .inl ⟨[.acting (some _) _], pending, .acting .nil, rfl⟩
    | nil => exact .inr ⟨course, { thread with stack := _ }, rfl, rfl⟩

/-- Calling for a round begins it. -/
theorem inside_of_called (called : s.2.stack = .acting who (.round next) :: below) :
    Inside s (.acting who next :: below) (step s) := by
  obtain ⟨course, thread⟩ := s
  rw [step_of_acting course called]
  exact ⟨[], _, .nil, rfl⟩

/-- **Whoever calls for a round gets its report**, whatever those do who are told. -/
theorem exists_handed (called : s.2.stack = .acting who (.round next) :: below) :
    ∃ n, Handed s who next below (steps (n + 2) s) ∧
      ∀ m ≤ n, Inside s (.acting who next :: below) (steps (m + 1) s) := by
  have going : s.2.stack ≠ [] := by simp [called]
  obtain ⟨n, last, before⟩ := exists_steps (fun _ inside => ⟨inside.going, inside.step⟩)
    (inside_of_called called)
  refine ⟨n, by rwa [steps_succ _ going], ?_⟩
  intro m early
  rw [steps_succ _ going]
  exact before m early

end Round

/-! ## How deep rounds nest -/

/-- What lies above `base` on a thread's stack registers nobody, nor does anybody else; and since
`told` receivers had been told, no more have been than were waiting then. -/
structure Thrifty (base : List (Activity ε)) (told most : Nat) (now : Course ε × Thread ε)
    (upper : List (Activity ε)) : Prop where
  stack : now.2.stack = upper ++ base
  modest : ∀ activity ∈ upper, activity.BringsNobody
  others : now.1.registry.BringsNobody
  spent : now.1.calls.length + total Activity.pending upper + now.1.registry.waiting ≤ told + most
  working : told + total Activity.atWork upper ≤ now.1.calls.length

section Thrift

variable {s now : Course ε × Thread ε} {who : Option Nat} {next : Script ε}
  {base below upper : List (Activity ε)} {told most : Nat}

theorem Thrifty.step {top : Activity ε} (thrifty : Thrifty base told most now (top :: upper)) :
    ∃ upper, Thrifty base told most (step now) upper := by
  obtain ⟨course, thread⟩ := now
  obtain ⟨stack, modest, others, spent, working⟩ := thrifty
  rw [List.forall_mem_cons] at modest
  obtain ⟨new, after, spends⟩ := exists_spends stack modest.1 others
  refine ⟨new ++ upper, by rw [after, List.append_assoc]; rfl, ?_, spends.others, ?_, ?_⟩
  · rw [List.forall_mem_append]
    exact ⟨spends.modest, modest.2⟩
  · have less := spends.spent
    simp at spent less ⊢
    omega
  · have more := spends.working
    simp at working more ⊢
    omega

/-- A round that is begun spends those whom it marks. -/
theorem thrifty_of_called (called : s.2.stack = .acting who (.round next) :: below)
    (modest : s.1.registry.BringsNobody) :
    Thrifty (.acting who next :: below) s.1.calls.length s.1.registry.waiting (step s)
      [.notifying ⟨(s.1.registry.mark s.1.plan).calls.map Call.id,
        (s.1.registry.mark s.1.plan).calls, (s.1.registry.mark s.1.plan).blocked⟩] := by
  obtain ⟨course, thread⟩ := s
  rw [step_of_acting course called]
  have fewer := course.registry.waiting_mark course.plan
  refine ⟨rfl, ?_, modest.mark course.plan, ?_, ?_⟩
  · rw [List.forall_mem_singleton]
    exact fun call called => modest.calls called
  · simp [act, Activity.pending]
    omega
  · simp [act, Activity.atWork]

/-- There is at most one round more than receivers at work, and these have been told. -/
theorem Thrifty.depth_le (thrifty : Thrifty base told most now upper)
    (inside : Inside s base now) :
    (rounds now.2.stack).length ≤ (rounds base).length + most + 1 := by
  obtain ⟨inner, pending, nested, stack⟩ := inside
  have same := thrifty.stack.symm.trans stack
  rw [← List.singleton_append, ← List.append_assoc, List.append_left_inj] at same
  have deep : (rounds inner).length ≤ total Activity.atWork inner :=
    Nat.le_of_add_right_le nested.length_rounds_add_le
  have working := thrifty.working
  have spent := thrifty.spent
  rw [stack]
  simp [same, Activity.atWork, rounds] at deep working ⊢
  omega

/-- A round that is called for within another one is over before that is. -/
theorem le_of_handed {n m j : Nat} {who' : Option Nat} {next' : Script ε}
    {inner : List (Activity ε)}
    (held : ∀ i ≤ n, Inside s (.acting who next :: below) (steps (i + 1) s))
    (handed : Handed s who next below (steps (n + 2) s)) (early : m < n + 2)
    (called : (steps m s).2.stack = .acting who' (.round next') :: inner)
    (outer : s.2.stack = .acting who (.round next) :: below)
    (within : ∀ i ≤ j, Inside (steps m s) (.acting who' next' :: inner)
      (steps (i + 1) (steps m s))) : m + (j + 2) ≤ n + 2 := by
  -- Otherwise the stack would be both as low as below the outer round and higher than that.
  by_contra late
  obtain ⟨course, thread, stack, last⟩ := handed
  obtain ⟨above, pending, -, still⟩ := within (n + 1 - m) (by omega)
  have lowest : below.length ≤ inner.length := by
    cases m with
    | zero =>
      obtain ⟨-, rfl⟩ := List.cons.inj (outer.symm.trans called)
      exact Nat.le_refl _
    | succ m =>
      obtain ⟨above, pending, -, higher⟩ := held m (by omega)
      have lengths := congrArg List.length (called.symm.trans higher)
      simp at lengths
      omega
  rw [← steps_add, show m + (n + 1 - m + 1) = n + 2 by omega, last, record_stack, stack] at still
  have lengths := congrArg List.length still
  simp at lengths
  omega

/-- **Rounds that are held within rounds** come to an end.  As long as nobody registers, whoever
calls for a round gets its report after some steps.  Until then rounds nest at most one deeper than
there were participants subscribed at first, whoever calls for a round in the meantime gets the
report of that one, and all of them together tell no more receivers than were subscribed. -/
theorem rounds_return (called : s.2.stack = .acting who (.round next) :: below)
    (modest : s.1.registry.BringsNobody) :
    ∃ n, Handed s who next below (steps n s) ∧
      (steps n s).1.calls.length ≤ s.1.calls.length + s.1.registry.waiting ∧
      ∀ m < n,
        (rounds (steps m s).2.stack).length ≤ (rounds below).length + s.1.registry.waiting + 1 ∧
        ∀ who' next' inner, (steps m s).2.stack = .acting who' (.round next') :: inner →
          ∃ k, m < k ∧ k ≤ n ∧ Handed (steps m s) who' next' inner (steps k s) := by
  have going : s.2.stack ≠ [] := by simp [called]
  let Sparing now := ∃ upper,
    Thrifty (.acting who next :: below) s.1.calls.length s.1.registry.waiting now upper
  have spares : ∀ now, Inside s (.acting who next :: below) now → Sparing now →
      Sparing (step now) := by
    rintro now inside ⟨upper, thrifty⟩
    cases upper with
    | nil =>
      obtain ⟨inner, pending, -, stack⟩ := inside
      have lengths := congrArg List.length (thrifty.stack.symm.trans stack)
      simp at lengths
      omega
    | cons top upper => exact thrifty.step
  obtain ⟨n, ⟨handed, upper, thrifty⟩, before⟩ := exists_steps
    (P := fun now => Inside s (.acting who next :: below) now ∧ Sparing now)
    (Q := fun now => Handed s who next below now ∧ Sparing now)
    (fun now ⟨inside, sparing⟩ => ⟨inside.going,
      inside.step.imp (⟨·, spares now inside sparing⟩) (⟨·, spares now inside sparing⟩)⟩)
    ⟨inside_of_called called, _, thrifty_of_called called modest⟩
  replace handed : Handed s who next below (steps (n + 2) s) := by rwa [steps_succ _ going]
  refine ⟨n + 2, handed, ?_, ?_⟩
  · have spent := thrifty.spent
    rw [steps_succ _ going]
    omega
  · intro m early
    constructor
    · cases m with
      | zero => simp [steps, called, rounds]; omega
      | succ m =>
        rw [steps_succ _ going]
        obtain ⟨inside, upper, thrifty⟩ := before m (by omega)
        simpa [rounds] using thrifty.depth_le inside
    · intro who' next' inner again
      obtain ⟨j, returned, within⟩ := exists_handed again
      have held : ∀ i ≤ n, Inside s (.acting who next :: below) (steps (i + 1) s) := by
        intro i early
        rw [steps_succ _ going]
        exact (before i early).1
      have sooner := le_of_handed held handed early again called within
      rw [← steps_add] at returned
      exact ⟨m + (j + 2), by omega, sooner, returned⟩

end Thrift

/-- Two stages with one participant each, who hold a round of their own when they are told. -/
def relay : Course Unit where
  plan := ⟨[[.dbTransport], [.messageController]], by decide⟩
  registry :=
    { entries :=
        [⟨.fixed .dbTransport, .markReady (.fixed .dbTransport) (.round .done), .subscribed⟩,
          ⟨.fixed .messageController, .round (.markReady (.fixed .messageController) .done),
            .subscribed⟩]
      nodup := by decide }
  calls := []

theorem rounds_return_relay :
    let s : Course Unit × Thread Unit := (relay, .ofScript (.round .done))
    relay.registry.BringsNobody ∧ relay.registry.waiting = 2 ∧
    (rounds (steps 6 s).2.stack).length = 3 ∧
    ∃ n, Handed s none .done [] (steps n s) ∧ (steps n s).1.calls.length ≤ 2 ∧
      ∀ m < n, (rounds (steps m s).2.stack).length ≤ 3 := by
  intro s
  have modest : relay.registry.BringsNobody := by
    simp [Registry.BringsNobody, relay, Script.BringsNobody]
  refine ⟨modest, by decide, by decide, ?_⟩
  obtain ⟨n, handed, told, before⟩ := rounds_return (s := s) rfl modest
  exact ⟨n, handed, told, fun m early => (before m early).1⟩

end Course

end Telematics.Shutdown
