/-
# Telematics.Proofs.Shutdown.Past -- the registry as its past has made it

A registry is what the happenings of a history have made of the empty one, but for
the order of its entries (`registry_run`).  So the registry of any moment can be read
off the history (`registryAt`), and each happening fits the registry of its moment,
in whatever order the entries stood (`fits_history`).

Only registering changes who is told for a participant.  So whoever stands in the
registry is there by the registration that is `InForce`, the last one for that
participant (`exists_inForce`), and until the next one nobody who has been told
is subscribed again (`not_subscribed_until`).
-/
import Telematics.Proofs.Shutdown.Barrier
import Telematics.Proofs.Shutdown.Called

namespace Telematics.Shutdown

set_option autoImplicit false

variable {ρ ε : Type}

namespace Registry

/-! ## Operations that bring nobody back -/

/-- The same participants with the same receivers, of whom nobody who has ended has been brought
back. -/
def Onward (r later : Registry ρ) : Prop :=
  ∃ f : Entry ρ → Status, (∀ e, e.status.isTerminal = true → (f e).isTerminal = true) ∧
    later = r.mapStatus f

theorem Onward.refl (r : Registry ρ) : r.Onward r :=
  ⟨Entry.status, fun _ ended => ended, r.mapStatus_self.symm⟩

theorem Onward.trans {r between later : Registry ρ} (first : r.Onward between)
    (second : between.Onward later) : r.Onward later := by
  obtain ⟨f, keeps, rfl⟩ := first
  obtain ⟨g, keeps', rfl⟩ := second
  exact ⟨_, fun e ended => keeps' _ (keeps e ended), r.mapStatus_mapStatus f g⟩

theorem onward_markNamed (r : Registry ρ) : r.Onward r.markNamed := by
  refine ⟨_, ?_, rfl⟩
  intro e ended
  split
  · rwa [Status.isTerminal_notify]
  · exact ended

theorem onward_markStage (r : Registry ρ) (stage : List Role) : r.Onward (r.markStage stage) := by
  refine ⟨_, ?_, rfl⟩
  intro e ended
  split
  · split
    · rwa [Status.isTerminal_notify]
    · exact ended
  · exact ended

theorem onward_mark (r : Registry ρ) (plan : Plan) : r.Onward (r.mark plan).registry := by
  show r.Onward (r.markNamed.markStages 0 plan.stages).registry
  rcases r.markNamed.markStages_cases 0 plan.stages with
    ⟨marking, -⟩ | ⟨_, stage, _, -, -, -, marking⟩
  · rw [marking]
    exact r.onward_markNamed
  · rw [marking]
    exact r.onward_markNamed.trans (r.markNamed.onward_markStage stage)

theorem onward_finish (r : Registry ρ) (id : Identity) (final : Status) :
    r.Onward (r.finish id final).1 := by
  unfold finish
  split
  · refine ⟨_, ?_, rfl⟩
    intro e ended
    split
    · rwa [Status.terminal_advance final ended]
    · exact ended
  · exact .refl r

/-! ## Who is told for a participant -/

/-- What is told for a participant. -/
def receiver? (r : Registry ρ) (id : Identity) : Option ρ :=
  (r.find? id).map Entry.receiver

theorem Onward.receiver? {r later : Registry ρ} (onward : r.Onward later) (id : Identity) :
    later.receiver? id = r.receiver? id := by
  obtain ⟨f, -, rfl⟩ := onward
  rw [Registry.receiver?, find?_mapStatus, Option.map_map]
  rfl

theorem receiver?_register_self (r : Registry ρ) (id : Identity) (receiver : ρ) :
    (r.register id (some receiver)).1.receiver? id = some receiver := by
  simp only [register, receiver?]
  rw [find?_put_self r ⟨id, receiver, .subscribed⟩]
  rfl

theorem receiver?_register_of_ne (r : Registry ρ) {id other : Identity} (receiver : ρ)
    (different : other ≠ id) :
    (r.register id (some receiver)).1.receiver? other = r.receiver? other := by
  simp only [register, receiver?]
  rw [find?_put_of_ne]
  exact different

end Registry

/-! ## One moment more -/

theorem getElem?_concat {α : Type} {history : List α} {time : Nat} {past : α}
    (there : history[time]? = some past) (last : α) : (history ++ [last])[time]? = some past := by
  rw [List.getElem?_append_left (List.getElem?_eq_some_iff.1 there).1, there]

theorem getElem?_concat_cases {α : Type} {history : List α} {last found : α} {time : Nat}
    (there : (history ++ [last])[time]? = some found) :
    time < history.length ∧ history[time]? = some found ∨ time = history.length ∧ last = found := by
  rcases Nat.lt_trichotomy time history.length with past | rfl | later
  · rw [List.getElem?_append_left past] at there
    exact .inl ⟨past, there⟩
  · rw [List.getElem?_concat_length, Option.some_inj] at there
    exact .inr ⟨rfl, there⟩
  · rw [List.getElem?_eq_none (by rw [List.length_append]; exact later)] at there
    cases there

/-! ## The registry of a moment -/

/-- The registry that some happenings lead to. -/
def replay (plan : Plan) (history : List (Happening ε)) : Registry (Script ε) :=
  history.foldl (fun r happening => happening.registryAfter plan r) .empty

/-- The registry at a moment of a history. -/
def registryAt (plan : Plan) (history : List (Happening ε)) (time : Nat) : Registry (Script ε) :=
  replay plan (history.take time)

theorem replay_concat (plan : Plan) (history : List (Happening ε)) (happening : Happening ε) :
    replay plan (history ++ [happening]) = happening.registryAfter plan (replay plan history) := by
  rw [replay, List.foldl_append]
  rfl

theorem registryAt_succ (plan : Plan) {history : List (Happening ε)} {time : Nat}
    {happening : Happening ε} (now : history[time]? = some happening) :
    registryAt plan history (time + 1) =
      happening.registryAfter plan (registryAt plan history time) := by
  rw [registryAt, List.take_add_one, now]
  exact replay_concat plan _ happening

theorem registryAt_length (plan : Plan) (history : List (Happening ε)) :
    registryAt plan history history.length = replay plan history := by
  rw [registryAt, List.take_length]

theorem registryAt_append (plan : Plan) {history : List (Happening ε)} {time : Nat}
    (past : time ≤ history.length) (more : List (Happening ε)) :
    registryAt plan (history ++ more) time = registryAt plan history time := by
  rw [registryAt, List.take_append_of_le_length past]
  rfl

theorem Happening.registryAfter_of_perm {r r' : Registry (Script ε)}
    (perm : r.entries.Perm r'.entries) (plan : Plan) (happening : Happening ε) :
    (happening.registryAfter plan r).entries.Perm (happening.registryAfter plan r').entries := by
  cases happening with
  | registered id receiver => exact Registry.register_of_perm perm id (some receiver)
  | finished id final => exact Registry.finish_of_perm perm id final
  | marked calls blocked => exact (Registry.mark_of_perm perm plan).1
  | _ => exact perm

/-- What a happening says is true of the registry that it finds, in whatever order the entries
stand. -/
def Happening.Fits (plan : Plan) (r : Registry (Script ε)) : Happening ε → Prop
  | .finished _ final => final.isTerminal = true
  | .marked calls blocked => calls.Perm (r.mark plan).calls ∧ blocked = (r.mark plan).blocked
  | .reported _ report => report.complete = r.isComplete plan
  | _ => True

theorem Happening.Fits.of_perm {plan : Plan} {r r' : Registry (Script ε)} {happening : Happening ε}
    (fits : happening.Fits plan r) (perm : r.entries.Perm r'.entries) : happening.Fits plan r' := by
  cases happening with
  | marked calls blocked =>
    obtain ⟨-, called, stopped⟩ := Registry.mark_of_perm perm plan
    exact ⟨fits.1.trans called, fits.2.trans stopped⟩
  | reported since report => exact fits.trans (Registry.isComplete_of_perm perm plan)
  | _ => exact fits

theorem Member.fits_next (m : Member ε) (course : Course ε) :
    (m.next course).Fits course.plan course.registry := by
  unfold Member.next
  split
  · trivial
  · rename_i script _ _
    cases script with
    | round next => exact ⟨.refl _, rfl⟩
    | _ => trivial
  · split
    · trivial
    · rfl

/-- Each happening of a history says what is true of the registry that it finds. -/
def Fitting (plan : Plan) (history : List (Happening ε)) : Prop :=
  ∀ (time : Nat) (happening : Happening ε), history[time]? = some happening →
    happening.Fits plan (registryAt plan history time)

theorem Fitting.nil (plan : Plan) : Fitting plan ([] : List (Happening ε)) :=
  fun _ _ there => by cases there

theorem Fitting.concat {plan : Plan} {history : List (Happening ε)} {happening : Happening ε}
    (fitting : Fitting plan history) (fits : happening.Fits plan (replay plan history)) :
    Fitting plan (history ++ [happening]) := by
  intro time other there
  rcases getElem?_concat_cases there with ⟨past, there⟩ | ⟨rfl, rfl⟩
  · rw [registryAt_append plan (Nat.le_of_lt past)]
    exact fitting time other there
  · rwa [registryAt_append plan (Nat.le_refl _), registryAt_length]

namespace Assembly

/-- The entries of the registry follow from the history, and so does what each happening says. -/
structure Faithful (plan : Plan) (a : Assembly ε) : Prop where
  planned : a.course.plan = plan
  registry : a.course.registry.entries.Perm (replay plan a.history).entries
  fits : Fitting plan a.history

theorem Faithful.turn {plan : Plan} {a : Assembly ε} (faithful : a.Faithful plan) (number : Nat)
    (m : Member ε) : (a.turn number m).Faithful plan where
  planned := (turn_plan a number m).trans faithful.planned
  registry := by
    rw [turn_registry, turn_history, replay_concat, faithful.planned]
    exact Happening.registryAfter_of_perm faithful.registry plan _
  fits := by
    rw [turn_history]
    have fits := m.fits_next a.course
    rw [faithful.planned] at fits
    exact faithful.fits.concat (fits.of_perm faithful.registry)

theorem faithful_run (plan : Plan) (choices : List (Choice ε)) :
    ((start plan).run choices).Faithful plan := by
  apply run_induction (P := Faithful plan)
  · intro a script faithful
    exact ⟨faithful.planned, faithful.registry, faithful.fits⟩
  · intro a key faithful
    exact ⟨faithful.planned, (a.course.registry.arrange_perm key).trans faithful.registry,
      faithful.fits⟩
  · intro a number m _ faithful
    exact faithful.turn number m
  · exact ⟨rfl, .refl _, .nil plan⟩

end Assembly

/-- The history of a run. -/
def historyOf (plan : Plan) (choices : List (Choice ε)) : List (Happening ε) :=
  ((Assembly.start plan).run choices).history

/-- The registry at the end of a run has the entries that its history has led to. -/
theorem registry_run (plan : Plan) (choices : List (Choice ε)) :
    ((Assembly.start plan).run choices).course.registry.entries.Perm
      (replay plan (historyOf plan choices)).entries :=
  (Assembly.faithful_run plan choices).registry

theorem fits_history (plan : Plan) (choices : List (Choice ε)) {time : Nat}
    {happening : Happening ε} (there : (historyOf plan choices)[time]? = some happening) :
    happening.Fits plan (registryAt plan (historyOf plan choices) time) :=
  (Assembly.faithful_run plan choices).fits time happening there

/-! ## Registrations -/

theorem Happening.receiver?_after {r : Registry (Script ε)} {id : Identity} (plan : Plan)
    (happening : Happening ε) (other : ∀ receiver, happening ≠ .registered id receiver) :
    (happening.registryAfter plan r).receiver? id = r.receiver? id := by
  cases happening with
  | registered who receiver =>
    have different : id ≠ who := by
      rintro rfl
      exact other receiver rfl
    exact r.receiver?_register_of_ne receiver different
  | finished who final => exact (r.onward_finish who final).receiver? id
  | marked calls blocked => exact (r.onward_mark plan).receiver? id
  | told since call => rfl
  | reported since report => rfl
  | nothing => rfl

theorem Happening.onward_after (plan : Plan) (r : Registry (Script ε)) {happening : Happening ε}
    (quiet : ∀ id receiver, happening ≠ .registered id receiver) :
    r.Onward (happening.registryAfter plan r) := by
  cases happening with
  | registered id receiver => exact absurd rfl (quiet id receiver)
  | finished id final => exact r.onward_finish id final
  | marked calls blocked => exact r.onward_mark plan
  | told since call => exact .refl r
  | reported since report => exact .refl r
  | nothing => exact .refl r

/-- Only registering makes somebody subscribed. -/
theorem Happening.not_subscribed_after {r : Registry (Script ε)} {id : Identity} {plan : Plan}
    {happening : Happening ε} (fits : happening.Fits plan r)
    (other : ∀ receiver, happening ≠ .registered id receiver)
    (told : r.status? id ≠ some .subscribed) :
    (happening.registryAfter plan r).status? id ≠ some .subscribed := by
  cases happening with
  | registered who receiver =>
    have different : id ≠ who := by
      rintro rfl
      exact other receiver rfl
    show (r.register who (some receiver)).1.status? id ≠ some .subscribed
    rwa [r.status?_register_of_ne _ different]
  | finished who final =>
    show (r.finish who final).1.status? id ≠ some .subscribed
    by_cases same : id = who
    · subst same
      rw [r.status?_finish_self]
      cases found : r.status? id with
      | none => simp
      | some status =>
        intro again
        have ends : status.advance final = .subscribed := Option.some.inj again
        unfold Status.advance at ends
        split at ends
        · exact told (found.trans (congrArg some ends))
        · have terminal : final.isTerminal = true := fits
          rw [ends] at terminal
          cases terminal
    · rwa [r.status?_finish_of_ne final same]
  | marked calls blocked =>
    show (r.mark plan).registry.status? id ≠ some .subscribed
    rwa [Registry.status?_mark_of_ne told]
  | told since call => exact told
  | reported since report => exact told
  | nothing => exact told

/-- A receiver was registered for a participant at the moment `birth`, and no other one between
then and the moment `now`. -/
structure InForce (history : List (Happening ε)) (birth now : Nat) (id : Identity)
    (receiver : Script ε) : Prop where
  born : history[birth]? = some (.registered id receiver)
  before : birth < now
  last : ∀ time other, birth < time → time < now → history[time]? ≠ some (.registered id other)

/-- One registration at most is in force. -/
theorem InForce.birth_unique {history : List (Happening ε)} {birth birth' now : Nat} {id : Identity}
    {receiver receiver' : Script ε} (left : InForce history birth now id receiver)
    (right : InForce history birth' now id receiver') : birth = birth' := by
  rcases Nat.lt_trichotomy birth birth' with less | same | greater
  · exact absurd right.born (left.last birth' receiver' less right.before)
  · exact same
  · exact absurd left.born (right.last birth receiver greater left.before)

/-- Who stands in the registry has been registered, and that is in force. -/
theorem exists_inForce (plan : Plan) {history : List (Happening ε)} {id : Identity}
    {receiver : Script ε} {now : Nat} (past : now ≤ history.length)
    (found : (registryAt plan history now).receiver? id = some receiver) :
    ∃ birth, InForce history birth now id receiver := by
  induction now with
  | zero => cases found
  | succ now ih =>
    have here := List.getElem?_eq_getElem past
    rw [registryAt_succ plan here] at found
    by_cases again : ∃ other, history[now] = .registered id other
    · obtain ⟨other, again⟩ := again
      rw [again] at here found
      have same : other = receiver :=
        Option.some.inj ((Registry.receiver?_register_self _ id other).symm.trans found)
      subst same
      refine ⟨now, here, Nat.lt_succ_self now, ?_⟩
      intro time other later sooner
      omega
    · rw [Happening.receiver?_after plan _ fun other same => again ⟨other, same⟩] at found
      obtain ⟨birth, inForce⟩ := ih (Nat.le_of_lt past) found
      refine ⟨birth, inForce.born, Nat.lt_succ_of_lt inForce.before, ?_⟩
      intro time other later sooner there
      rcases Nat.lt_or_eq_of_le (Nat.le_of_lt_succ sooner) with sooner | rfl
      · exact inForce.last time other later sooner there
      · exact again ⟨other, Option.some.inj (here.symm.trans there)⟩

/-- Who is not subscribed stays so until the next registration. -/
theorem not_subscribed_until (plan : Plan) (choices : List (Choice ε)) {id : Identity}
    {since now : Nat} (order : since ≤ now) (past : now ≤ (historyOf plan choices).length)
    (told : (registryAt plan (historyOf plan choices) since).status? id ≠ some .subscribed)
    (last : ∀ time other, since ≤ time → time < now →
      (historyOf plan choices)[time]? ≠ some (.registered id other)) :
    (registryAt plan (historyOf plan choices) now).status? id ≠ some .subscribed := by
  induction order with
  | refl => exact told
  | @step now order ih =>
    have here := List.getElem?_eq_getElem past
    rw [registryAt_succ plan here]
    apply Happening.not_subscribed_after (fits_history plan choices here)
    · intro receiver same
      exact last now receiver order (Nat.lt_succ_self now) (here.trans (congrArg some same))
    · apply ih (Nat.le_of_lt past)
      intro time other later sooner
      exact last time other later (Nat.lt_succ_of_lt sooner)

end Telematics.Shutdown
