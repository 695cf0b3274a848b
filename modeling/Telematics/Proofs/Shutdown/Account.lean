/-
# Telematics.Proofs.Shutdown.Account -- the registry as an account of the past

What the registry shows of a participant follows from what has happened to that
participant alone.  Somebody who has never been registered is not there.  For
everybody else the last registration counts, and of what came after it only two
things: the first end, which no later one changes, and without an end whether a
round has marked the participant (`Account`).

A history gives exactly one account of each participant at each moment
(`Account.unique`), and that is the status in the registry (`account_at`).  So
two runs that agree on what has happened to a participant agree on its status,
whatever they did to others (`registry_accounts`).
-/
import Mathlib.Data.List.Dedup
import Telematics.Proofs.Shutdown.Past

namespace Telematics.Shutdown

set_option autoImplicit false

variable {ρ ε : Type}

/-! ## What concerns a participant -/

/-- A happening registers a participant, ends its part or marks it. -/
def Happening.Concerns (id : Identity) : Happening ε → Prop
  | .registered who _ => who = id
  | .finished who _ => who = id
  | .marked calls _ => id ∈ calls.map Call.id
  | _ => False

/-- Marking leaves alone whom it does not call. -/
theorem Registry.status?_mark_of_not_mem {r : Registry ρ} {plan : Plan} {id : Identity}
    (uncalled : id ∉ (r.mark plan).calls.map Call.id) :
    (r.mark plan).registry.status? id = r.status? id := by
  by_cases waits : r.status? id = some .subscribed
  · obtain ⟨stage, marks, -⟩ := r.exists_marks plan
    rw [marks.status, waits, Option.map_some]
    split
    · rename_i among
      obtain ⟨e, member, rfl, own⟩ := status?_eq_some_iff.1 waits
      have called := (marks.called (callOf e)).2 ⟨among, e, member, own, rfl⟩
      exact absurd (List.mem_map_of_mem called) uncalled
    · rfl
  · exact status?_mark_of_ne waits plan

/-- What does not concern a participant leaves its status as it is. -/
theorem Happening.status?_after {r : Registry (Script ε)} {plan : Plan} {id : Identity}
    {happening : Happening ε} (fits : happening.Fits plan r) (other : ¬ happening.Concerns id) :
    (happening.registryAfter plan r).status? id = r.status? id := by
  cases happening with
  | registered who receiver => exact r.status?_register_of_ne _ fun same => other same.symm
  | finished who final => exact r.status?_finish_of_ne final fun same => other same.symm
  | marked calls blocked =>
    apply Registry.status?_mark_of_not_mem
    exact fun called => other ((fits.1.map Call.id).mem_iff.2 called)
  | told since call => rfl
  | reported since report => rfl
  | nothing => rfl

/-- Somebody registered a participant. -/
def Registered (history : List (Happening ε)) (id : Identity) : Prop :=
  ∃ (time : Nat) (receiver : Script ε), history[time]? = some (.registered id receiver)

/-- Whoever ends a part ends it in a final way. -/
def Final (history : List (Happening ε)) : Prop :=
  ∀ (time : Nat) (id : Identity) (final : Status), history[time]? = some (.finished id final) →
    final.isTerminal = true

/-! ## The account of a participant -/

/-- A participant's part was ended at the moment `time`, for the first time since the moment
`birth`. -/
structure FirstEnd (history : List (Happening ε)) (birth time now : Nat) (id : Identity)
    (final : Status) : Prop where
  ended : history[time]? = some (.finished id final)
  after : birth < time
  before : time < now
  first : ∀ sooner other, birth < sooner → sooner < time →
    history[sooner]? ≠ some (.finished id other)

/-- Nobody ended a participant's part between two moments. -/
def Going (history : List (Happening ε)) (birth now : Nat) (id : Identity) : Prop :=
  ∀ time final, birth < time → time < now → history[time]? ≠ some (.finished id final)

/-- A round marked a participant between two moments. -/
def MarkedIn (history : List (Happening ε)) (birth now : Nat) (id : Identity) : Prop :=
  ∃ time calls blocked, birth < time ∧ time < now ∧
    history[time]? = some (.marked calls blocked) ∧ id ∈ calls.map Call.id

/-- How far a participant is that was registered at the moment `birth`. -/
inductive Standing (history : List (Happening ε)) (birth now : Nat) (id : Identity) :
    Status → Prop where
  | ended {time : Nat} {final : Status} (first : FirstEnd history birth time now id final) :
      Standing history birth now id final
  | told (going : Going history birth now id) (marked : MarkedIn history birth now id) :
      Standing history birth now id .notified
  | waiting (going : Going history birth now id) (unmarked : ¬ MarkedIn history birth now id) :
      Standing history birth now id .subscribed

/-- What a history says of the status of a participant at a moment. -/
inductive Account (history : List (Happening ε)) (now : Nat) (id : Identity) :
    Option Status → Prop where
  | absent (never : ∀ time receiver, time < now →
      history[time]? ≠ some (.registered id receiver)) : Account history now id none
  /-- The last registration counts. -/
  | present {birth : Nat} {receiver : Script ε} {status : Status}
      (inForce : InForce history birth now id receiver)
      (standing : Standing history birth now id status) : Account history now id (some status)

section Uniqueness

variable {history : List (Happening ε)} {birth now : Nat} {id : Identity}

theorem FirstEnd.not_going {time : Nat} {final : Status}
    (first : FirstEnd history birth time now id final) : ¬ Going history birth now id :=
  fun going => going time final first.after first.before first.ended

theorem FirstEnd.unique {time time' : Nat} {final final' : Status}
    (left : FirstEnd history birth time now id final)
    (right : FirstEnd history birth time' now id final') : final = final' := by
  rcases Nat.lt_trichotomy time time' with sooner | rfl | later
  · exact absurd left.ended (right.first time final left.after sooner)
  · cases left.ended.symm.trans right.ended
    rfl
  · exact absurd right.ended (left.first time' final' right.after later)

theorem Standing.unique {status status' : Status} (left : Standing history birth now id status)
    (right : Standing history birth now id status') : status = status' := by
  cases left with
  | ended first =>
    cases right with
    | ended first' => exact first.unique first'
    | told going marked => exact absurd going first.not_going
    | waiting going unmarked => exact absurd going first.not_going
  | told going marked =>
    cases right with
    | ended first => exact absurd going first.not_going
    | told going' marked' => rfl
    | waiting going' unmarked => exact absurd marked unmarked
  | waiting going unmarked =>
    cases right with
    | ended first => exact absurd going first.not_going
    | told going' marked => exact absurd marked unmarked
    | waiting going' unmarked' => rfl

/-- **A history gives one account of a participant**. -/
theorem Account.unique {status status' : Option Status} (left : Account history now id status)
    (right : Account history now id status') : status = status' := by
  cases left with
  | absent never =>
    cases right with
    | absent never' => rfl
    | present inForce standing => exact absurd inForce.born (never _ _ inForce.before)
  | present inForce standing =>
    cases right with
    | absent never => exact absurd inForce.born (never _ _ inForce.before)
    | present inForce' standing' =>
      cases inForce.birth_unique inForce'
      rw [standing.unique standing']

/-- Who is done has been ended. -/
theorem Standing.exists_firstEnd {status : Status} (standing : Standing history birth now id status)
    (done : status.isTerminal = true) : ∃ time, FirstEnd history birth time now id status := by
  cases standing with
  | ended first => exact ⟨_, first⟩
  | told going marked => cases done
  | waiting going unmarked => cases done

/-- Who is not done is still going. -/
theorem Standing.going {status : Status} (finals : Final history)
    (standing : Standing history birth now id status) (open_ : status.isTerminal = false) :
    Going history birth now id := by
  cases standing with
  | ended first => exact absurd (finals _ _ _ first.ended) (by simp [open_])
  | told going marked => exact going
  | waiting going unmarked => exact going

end Uniqueness

/-! ## One moment more -/

section Step

variable {history : List (Happening ε)} {birth now : Nat} {id : Identity}

theorem FirstEnd.later {time : Nat} {final : Status}
    (first : FirstEnd history birth time now id final) :
    FirstEnd history birth time (now + 1) id final :=
  { first with before := Nat.lt_succ_of_lt first.before }

theorem Going.later (going : Going history birth now id)
    (quiet : ∀ final, history[now]? ≠ some (.finished id final)) :
    Going history birth (now + 1) id := by
  intro time final after before
  rcases Nat.lt_succ_iff_lt_or_eq.1 before with before | rfl
  · exact going time final after before
  · exact quiet final

theorem MarkedIn.later (marked : MarkedIn history birth now id) :
    MarkedIn history birth (now + 1) id := by
  obtain ⟨time, calls, blocked, after, before, there, called⟩ := marked
  exact ⟨time, calls, blocked, after, Nat.lt_succ_of_lt before, there, called⟩

theorem MarkedIn.sooner (marked : MarkedIn history birth (now + 1) id)
    (quiet : ∀ calls blocked, history[now]? = some (.marked calls blocked) →
      id ∉ calls.map Call.id) :
    MarkedIn history birth now id := by
  obtain ⟨time, calls, blocked, after, before, there, called⟩ := marked
  rcases Nat.lt_succ_iff_lt_or_eq.1 before with before | rfl
  · exact ⟨time, calls, blocked, after, before, there, called⟩
  · exact absurd called (quiet calls blocked there)

theorem InForce.later {receiver : Script ε} (inForce : InForce history birth now id receiver)
    (quiet : ∀ other, history[now]? ≠ some (.registered id other)) :
    InForce history birth (now + 1) id receiver where
  born := inForce.born
  before := Nat.lt_succ_of_lt inForce.before
  last := by
    intro time other after before
    rcases Nat.lt_succ_iff_lt_or_eq.1 before with before | rfl
    · exact inForce.last time other after before
    · exact quiet other

/-- Nothing has happened yet to who has just been registered. -/
theorem account_of_registered {receiver : Script ε}
    (now_ : history[now]? = some (.registered id receiver)) :
    Account history (now + 1) id (some .subscribed) := by
  refine .present ⟨now_, Nat.lt_succ_self now, ?_⟩ (.waiting ?_ ?_)
  · intro time other after before
    omega
  · intro time final after before
    omega
  · rintro ⟨time, calls, blocked, after, before, -⟩
    omega

/-- What does not concern a participant leaves its account as it is. -/
theorem Account.later {status : Option Status} {happening : Happening ε}
    (account : Account history now id status) (here : history[now]? = some happening)
    (other : ¬ happening.Concerns id) : Account history (now + 1) id status := by
  have registered : ∀ receiver, history[now]? ≠ some (.registered id receiver) := by
    intro receiver there
    cases here.symm.trans there
    exact other rfl
  have finished : ∀ final, history[now]? ≠ some (.finished id final) := by
    intro final there
    cases here.symm.trans there
    exact other rfl
  have marked : ∀ calls blocked, history[now]? = some (.marked calls blocked) →
      id ∉ calls.map Call.id := by
    intro calls blocked there
    cases here.symm.trans there
    exact other
  cases account with
  | absent never =>
    apply Account.absent
    intro time receiver before
    rcases Nat.lt_succ_iff_lt_or_eq.1 before with before | rfl
    · exact never time receiver before
    · exact registered receiver
  | present inForce standing =>
    refine .present (inForce.later registered) ?_
    cases standing with
    | ended first => exact .ended first.later
    | told going marked => exact .told (going.later finished) marked.later
    | waiting going unmarked =>
      exact .waiting (going.later finished) fun again => unmarked (again.sooner marked)

/-- Who is still going is ended by the first that ends its part. -/
theorem Account.finish {status : Option Status} {final : Status}
    (account : Account history now id status)
    (finals : Final history)
    (here : history[now]? = some (.finished id final)) :
    Account history (now + 1) id (status.map (·.advance final)) := by
  have registered : ∀ receiver, history[now]? ≠ some (.registered id receiver) := by
    intro receiver there
    cases here.symm.trans there
  cases account with
  | absent never =>
    apply Account.absent
    intro time receiver before
    rcases Nat.lt_succ_iff_lt_or_eq.1 before with before | rfl
    · exact never time receiver before
    · exact registered receiver
  | @present birth receiver earlier inForce standing =>
    have ends : Going history birth now id → FirstEnd history birth now (now + 1) id final :=
      fun going => ⟨here, inForce.before, Nat.lt_succ_self now, going⟩
    refine .present (inForce.later registered) ?_
    cases standing with
    | ended first =>
      show Standing history birth (now + 1) id (earlier.advance final)
      rw [Status.terminal_advance final (finals _ _ _ first.ended)]
      exact .ended first.later
    | told going marked => exact .ended (ends going)
    | waiting going unmarked => exact .ended (ends going)

/-- Marking tells who has been waiting. -/
theorem Account.mark {calls : List (Call (Script ε))} {blocked : Option Nat}
    (account : Account history now id (some .subscribed))
    (finals : Final history)
    (here : history[now]? = some (.marked calls blocked)) (called : id ∈ calls.map Call.id) :
    Account history (now + 1) id (some .notified) := by
  cases account with
  | present inForce standing =>
    refine .present (inForce.later ?_) ?_
    · intro receiver there
      cases here.symm.trans there
    · cases standing with
      | ended first => cases finals _ _ _ first.ended
      | waiting going unmarked =>
        refine .told (going.later ?_) ⟨now, calls, blocked, inForce.before, Nat.lt_succ_self now,
          here, called⟩
        intro final there
        cases here.symm.trans there

end Step

/-! ## The registry gives the account -/

theorem fitting_history (plan : Plan) (choices : List (Choice ε)) :
    Fitting plan (historyOf plan choices) :=
  fun _ _ there => fits_history plan choices there

variable {plan : Plan} {history : List (Happening ε)}

theorem Fitting.final (fitting : Fitting plan history) : Final history :=
  fun time _ _ there => fitting time _ there

/-- **The registry of a moment shows what the history says.** -/
theorem account_at (fitting : Fitting plan history) (id : Identity) {now : Nat}
    (past : now ≤ history.length) :
    Account history now id ((registryAt plan history now).status? id) := by
  induction now with
  | zero => exact .absent fun time receiver before => absurd before (Nat.not_lt_zero time)
  | succ now ih =>
    have account := ih (Nat.le_of_lt past)
    have here := List.getElem?_eq_getElem past
    have fits := fitting now _ here
    rw [registryAt_succ plan here]
    by_cases concerns : history[now].Concerns id
    · generalize history[now] = happening at here fits concerns
      cases happening with
      | registered who receiver =>
        cases (show who = id from concerns)
        have subscribed := (registryAt plan history now).status?_register_self id receiver
        exact subscribed.symm ▸ account_of_registered here
      | finished who final =>
        cases (show who = id from concerns)
        have ended := (registryAt plan history now).status?_finish_self id final
        exact ended.symm ▸ account.finish fitting.final here
      | marked calls blocked =>
        have called : id ∈ calls.map Call.id := concerns
        obtain ⟨waits, told⟩ :=
          Registry.mem_calls_iff.1 ((fits.1.map Call.id).mem_iff.1 called)
        rw [waits] at account
        exact told.symm ▸ account.mark fitting.final here called
      | told since call => exact concerns.elim
      | reported since report => exact concerns.elim
      | nothing => exact concerns.elim
    · rw [Happening.status?_after fits concerns]
      exact account.later here concerns

theorem status?_eq_iff_account (fitting : Fitting plan history) {id : Identity} {now : Nat}
    {status : Option Status} (past : now ≤ history.length) :
    (registryAt plan history now).status? id = status ↔ Account history now id status := by
  have account := account_at fitting id past
  constructor
  · rintro rfl
    exact account
  · intro other
    exact account.unique other

/-- Whose registration is in force is there, by that receiver. -/
theorem find?_of_inForce (fitting : Fitting plan history) {birth now : Nat} {id : Identity}
    {receiver : Script ε} (past : now ≤ history.length)
    (inForce : InForce history birth now id receiver) :
    ∃ status, (registryAt plan history now).find? id = some ⟨id, receiver, status⟩ ∧
      Standing history birth now id status := by
  have account := account_at fitting id past
  rw [Registry.status?] at account
  cases found : (registryAt plan history now).find? id with
  | none =>
    rw [found] at account
    cases account with
    | absent never => exact absurd inForce.born (never _ _ inForce.before)
  | some e =>
    rw [found] at account
    cases account with
    | present inForce' standing =>
      cases inForce.birth_unique inForce'
      obtain ⟨-, rfl⟩ := Registry.find?_eq_some_iff.1 found
      -- The receiver is that of the same registration.
      have told : (registryAt plan history now).receiver? e.id = some e.receiver := by
        rw [Registry.receiver?, found]
        rfl
      obtain ⟨birth', own⟩ := exists_inForce plan past told
      cases inForce.birth_unique own
      cases inForce.born.symm.trans own.born
      exact ⟨e.status, rfl, standing⟩

/-! ## Who is there -/

/-- Who was registered. -/
def Happening.registrant? : Happening ε → Option Identity
  | .registered id _ => some id
  | _ => none

theorem mem_registrants {id : Identity} :
    id ∈ history.filterMap Happening.registrant? ↔
      Registered history id := by
  rw [List.mem_filterMap]
  constructor
  · rintro ⟨happening, member, same⟩
    obtain ⟨time, there⟩ := List.getElem?_of_mem member
    cases happening with
    | registered who receiver =>
      cases same
      exact ⟨time, receiver, there⟩
    | _ => cases same
  · rintro ⟨time, receiver, there⟩
    exact ⟨_, List.mem_of_getElem? there, rfl⟩

theorem Registry.mem_ids_iff {r : Registry ρ} {id : Identity} :
    id ∈ r.entries.map Entry.id ↔ (r.status? id).isSome = true := by
  rw [Option.isSome_iff_exists]
  simp only [status?_eq_some_iff, List.mem_map]
  constructor
  · rintro ⟨e, member, own⟩
    exact ⟨e.status, e, member, own, rfl⟩
  · rintro ⟨status, e, member, own, -⟩
    exact ⟨e, member, own⟩

/-- Those are there who have been registered. -/
theorem isSome_status?_iff (fitting : Fitting plan history) {id : Identity} :
    ((replay plan history).status? id).isSome = true ↔ Registered history id := by
  have account := account_at fitting id (Nat.le_refl history.length)
  rw [registryAt_length] at account
  generalize (replay plan history).status? id = status at account
  cases account with
  | absent never =>
    refine ⟨nofun, ?_⟩
    rintro ⟨time, receiver, there⟩
    exact absurd there (never time receiver (List.getElem?_eq_some_iff.1 there).1)
  | present inForce standing => exact ⟨fun _ => ⟨_, _, inForce.born⟩, fun _ => rfl⟩

/-- There are as many entries as participants that have been registered. -/
theorem size_replay (fitting : Fitting plan history) :
    (replay plan history).size = (history.filterMap Happening.registrant?).dedup.length := by
  have same : ((replay plan history).entries.map Entry.id).Perm
      (history.filterMap Happening.registrant?).dedup := by
    rw [List.perm_ext_iff_of_nodup (replay plan history).nodup (List.nodup_dedup _)]
    intro id
    rw [List.mem_dedup, Registry.mem_ids_iff, isSome_status?_iff fitting, mem_registrants]
  rw [Registry.size, ← same.length_eq, List.length_map]

theorem Registry.finish_done_iff {r : Registry ρ} {id : Identity} {final : Status} :
    (r.finish id final).2.1 = true ↔ (r.status? id).isSome = true := by
  unfold finish
  rw [status?, Option.isSome_map]
  split
  · rename_i found
    exact ⟨fun _ => found, fun _ => rfl⟩
  · rename_i missing
    exact iff_of_false Bool.false_ne_true missing

/-- **The registry is an account of the past**: after every run the history of a participant alone
decides its status, an operation that ends its part says whether it has ever been registered, and
there are as many entries as have been. -/
theorem registry_accounts (plan : Plan) (choices : List (Choice ε)) :
    let r := ((Assembly.start plan).run choices).course.registry
    let history := historyOf plan choices
    (∀ id status, r.status? id = status ↔ Account history history.length id status) ∧
    (∀ id, ((r.markReady id).2.1 = true ↔ Registered history id) ∧
      ((r.withdraw id).2.1 = true ↔ Registered history id)) ∧
    (∀ id, (r.register id none).1 = r ∧ (r.register id none).2.1 = false) ∧
    (∀ id receiver, (r.register id (some receiver)).2.1 = true) ∧
    r.size = (history.filterMap Happening.registrant?).dedup.length ∧
    ∀ id other, other ≠ id →
      (∀ receiver, (r.register id receiver).1.status? other = r.status? other) ∧
      (r.markReady id).1.status? other = r.status? other ∧
      (r.withdraw id).1.status? other = r.status? other := by
  intro r history
  have fitting := fitting_history plan choices
  have now : r.entries.Perm (replay plan history).entries := registry_run plan choices
  have known : ∀ id final, (r.finish id final).2.1 = true ↔ Registered history id := by
    intro id final
    rw [Registry.finish_done_iff, Registry.status?_of_perm now]
    exact isSome_status?_iff fitting
  refine ⟨?_, fun id => ⟨known id _, known id _⟩, fun _ => ⟨rfl, rfl⟩, fun _ _ => rfl, ?_, ?_⟩
  · intro id status
    rw [Registry.status?_of_perm now, ← registryAt_length]
    exact status?_eq_iff_account fitting (Nat.le_refl _)
  · exact now.length_eq.trans (size_replay fitting)
  · intro id other different
    exact ⟨fun receiver => r.status?_register_of_ne receiver different,
      r.status?_finish_of_ne _ different, r.status?_finish_of_ne _ different⟩

/-- A participant is told, registers again, withdraws, and then reports that it has finished. -/
def career : List (Choice Unit) :=
  .enter (.register (.fixed .midHandler) .done (.round (.register (.fixed .midHandler) .done
    (.withdraw (.fixed .midHandler) (.markReady (.fixed .midHandler) .done))))) ::
    List.replicate 8 (.turn 0)

/-- The withdrawal was first, and a stranger who is not there changes nothing. -/
theorem registry_accounts_career :
    Account (historyOf .standard career) 8 (.fixed .midHandler) (some .unsubscribed) ∧
      ((Assembly.start .standard).run career).course.registry.size = 1 ∧
      Identity.fixed .midHandler ≠ .fixed .messageController ∧
      (((Assembly.start .standard).run career).course.registry.markReady
        (.fixed .messageController)).1.status? (.fixed .midHandler) = some .unsubscribed := by
  obtain ⟨accounts, -, -, -, size, apart⟩ := registry_accounts .standard career
  have status : ((Assembly.start .standard).run career).course.registry.status?
      (.fixed .midHandler) = some .unsubscribed := rfl
  have different : Identity.fixed .midHandler ≠ .fixed .messageController := by decide
  refine ⟨(accounts _ _).1 status, size.trans (by decide), different, ?_⟩
  exact (apart _ _ different).2.1.trans status

end Telematics.Shutdown
