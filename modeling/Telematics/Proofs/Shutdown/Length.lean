/-
# Telematics.Proofs.Shutdown.Length -- how long a shutdown takes by itself

A shutdown completes by itself if everybody it waits for has ended or is still
to be told, and whoever is told ends their own part there and then
(`Course.SelfCompleting`).  What is left of it is a queue: the subscribed roles of
each stage, without the stages that have none (`Registry.parts`).  A round tells
the first part of the queue, and those with a name of their own if it is the
first round, and leaves the others as they are (`parts_held`).  It finds the
shutdown complete just if nothing of the queue is left (`complete_report`).

So the coordinator's thread, left alone, holds one round for each part, or one if
there is none, and is over then (`a_round_for_each_stage`).
-/
import Telematics.Proofs.Shutdown.Own

namespace Telematics.Shutdown

set_option autoImplicit false

variable {ρ ε : Type}

/-- A receiver that minds its own business, and has ended its part when it is done. -/
def Script.Finishes (id : Identity) (script : Script ε) : Prop :=
  script.Minds id ∧ (script.leaves .notified).isTerminal = true

/-- Everybody whom the shutdown waits for has ended, or is still to be told and ends their part
then. -/
def Course.SelfCompleting (course : Course ε) : Prop :=
  ∀ e ∈ course.registry.entries, course.plan.counts e.id = true →
    e.status.isTerminal = true ∨ e.status = .subscribed ∧ e.receiver.Finishes e.id

namespace Registry

/-- The members of a stage who are still to be told. -/
def due (r : Registry ρ) (stage : List Role) : List Role :=
  stage.filter fun role => r.status? (.fixed role) = some .subscribed

/-- Those who are still to be told, stage by stage. -/
def parts (r : Registry ρ) (stages : List (List Role)) : List (List Role) :=
  (stages.map r.due).filter (· ≠ [])

/-- Those with a name of their own who are still to be told. -/
def dueNames (r : Registry ρ) : List Identity := r.namedCalls.map Call.id

variable {r r' : Registry ρ} {plan : Plan} {stages : List (List Role)}

theorem mem_due {role : Role} {stage : List Role} :
    role ∈ r.due stage ↔ role ∈ stage ∧ r.status? (.fixed role) = some .subscribed := by
  simp [due]

theorem parts_append (r : Registry ρ) (front back : List (List Role)) :
    r.parts (front ++ back) = r.parts front ++ r.parts back := by
  simp [parts]

theorem parts_cons_of_ne {stage : List Role} (waits : r.due stage ≠ []) :
    r.parts (stage :: stages) = r.due stage :: r.parts stages := by
  simp [parts, waits]

theorem parts_cons_of_nil {stage : List Role} (nobody : r.due stage = []) :
    r.parts (stage :: stages) = r.parts stages := by
  simp [parts, nobody]

theorem parts_eq_nil_iff : r.parts stages = [] ↔ ∀ stage ∈ stages, r.due stage = [] := by
  simp [parts]

theorem parts_congr (same : ∀ stage ∈ stages, r.due stage = r'.due stage) :
    r.parts stages = r'.parts stages := by
  rw [parts, parts, List.map_congr_left same]

/-- All the parts together are the roles that are still to be told. -/
theorem flatten_parts (r : Registry ρ) (stages : List (List Role)) :
    (r.parts stages).flatten = r.due stages.flatten := by
  induction stages with
  | nil => rfl
  | cons stage stages ih =>
    have both : r.due (stage :: stages).flatten = r.due stage ++ r.due stages.flatten := by
      rw [due, List.flatten_cons, List.filter_append]
      rfl
    by_cases nobody : r.due stage = []
    · rw [parts_cons_of_nil nobody, both, nobody, ih]
      rfl
    · rw [parts_cons_of_ne nobody, both, List.flatten_cons, ih]

/-- There is one part for each stage of which somebody is still to be told. -/
theorem length_parts (r : Registry ρ) (stages : List (List Role)) : (r.parts stages).length =
    (stages.filter fun stage =>
      stage.any fun role => r.status? (.fixed role) = some .subscribed).length := by
  rw [parts, List.filter_map, List.length_map]
  congr 2
  funext stage
  rw [Bool.eq_iff_iff]
  simp [due, List.filter_eq_nil_iff]

theorem counts_of_reaches {id : Identity} (reached : r.reaches plan id = true) :
    plan.counts id = true := by
  cases id with
  | named name => rfl
  | fixed role =>
    have among : role ∈ plan.stageAt (r.mark plan).blocked := by
      simpa [reaches, Identity.isNamed, Identity.isAmong] using reached
    rw [Plan.counts_fixed_iff]
    unfold Plan.stageAt at among
    split at among
    · rename_i k _
      cases there : plan.stages[k]? with
      | none => simp [there] at among
      | some stage =>
        rw [there] at among
        exact ⟨stage, List.mem_of_getElem? there, among⟩
    · cases among

theorem HeldAt.split {k : Nat} {stage : List Role} (held : r.HeldAt plan k stage) :
    ∃ front back, plan.stages = front ++ stage :: back ∧
      ∀ earlier ∈ front, ¬ r.Holds earlier := by
  obtain ⟨within, there⟩ := List.getElem?_eq_some_iff.1 held.there
  refine ⟨plan.stages.take k, plan.stages.drop (k + 1), ?_, ?_⟩
  · rw [← there, List.getElem_cons_drop, List.take_append_drop]
  · intro earlier member
    obtain ⟨j, sooner, rfl⟩ := List.getElem_of_mem member
    rw [List.getElem_take]
    rw [List.length_take] at sooner
    exact held.first j _ (by omega) (List.getElem?_eq_getElem _)

theorem HeldAt.stageAt {k : Nat} {stage : List Role} (held : r.HeldAt plan k stage) :
    plan.stageAt (r.mark plan).blocked = stage := by
  rw [blocked_eq_some_iff.2 ⟨stage, held⟩, Plan.stageAt, held.there]
  rfl

/-- Marking goes over the roles of the stage at which it stops. -/
theorem HeldAt.reaches_iff {k : Nat} {stage : List Role} (held : r.HeldAt plan k stage)
    (role : Role) : r.reaches plan (.fixed role) = true ↔ role ∈ stage := by
  simp [reaches, held.stageAt, Identity.isNamed, Identity.isAmong]

end Registry

/-- No role of a later stage is one of this stage. -/
theorem Plan.not_mem_of_mem_later {plan : Plan} {stage : List Role} {front back : List (List Role)}
    (split : plan.stages = front ++ stage :: back) {later : List Role} (inside : later ∈ back)
    {role : Role} (theirs : role ∈ later) : role ∉ stage := by
  have once := plan.nodup
  rw [split, List.flatten_append, List.flatten_cons] at once
  have apart := (List.nodup_append.1 (List.nodup_append.1 once).2.1).2.2
  intro mine
  exact apart role mine role (List.mem_flatten.2 ⟨later, inside, theirs⟩) rfl

namespace Course

variable {course : Course ε}

namespace SelfCompleting

/-- Whoever is waited for is still to be told. -/
theorem subscribed (self : course.SelfCompleting) {id : Identity} {status : Status}
    (counts : course.plan.counts id = true) (found : course.registry.status? id = some status)
    (going : status.isTerminal = false) : status = .subscribed := by
  obtain ⟨e, member, rfl, rfl⟩ := Registry.status?_eq_some_iff.1 found
  rcases self e member counts with ended | ⟨waits, -⟩
  · rw [going] at ended
    cases ended
  · exact waits

theorem minding (self : course.SelfCompleting) : course.Minding := by
  intro e member waits reached
  rcases self e member (Registry.counts_of_reaches reached) with ended | ⟨-, finishes⟩
  · rw [waits] at ended
    cases ended
  · exact finishes.1

/-- A stage holds the shutdown up just if somebody of it is still to be told. -/
theorem holds_iff (self : course.SelfCompleting) {stage : List Role}
    (member : stage ∈ course.plan.stages) :
    course.registry.Holds stage ↔ course.registry.due stage ≠ [] := by
  constructor
  · rintro ⟨role, inside, status, found, going⟩
    have counts := Plan.counts_fixed_iff.2 ⟨stage, member, inside⟩
    rw [self.subscribed counts found going] at found
    exact List.ne_nil_of_mem (Registry.mem_due.2 ⟨inside, found⟩)
  · intro some
    obtain ⟨role, waits⟩ := List.exists_mem_of_ne_nil _ some
    obtain ⟨inside, found⟩ := Registry.mem_due.1 waits
    exact ⟨role, inside, .subscribed, found, rfl⟩

theorem held (self : course.SelfCompleting) : course.held.SelfCompleting := by
  intro e member counts
  rw [registry_held self.minding] at member
  obtain ⟨e', before, rfl⟩ := List.mem_map.1 member
  have planned : course.held.plan = course.plan := course.follow_plan _
  rw [planned] at counts
  dsimp only at counts ⊢
  rcases self e' before counts with ended | ⟨waits, finishes⟩
  · left
    rw [if_neg]
    · exact ended
    · rintro ⟨waits, -⟩
      rw [waits] at ended
      cases ended
  · by_cases reached : course.registry.reaches course.plan e'.id = true
    · left
      rw [if_pos ⟨waits, reached⟩]
      exact finishes.2
    · right
      rw [if_neg fun both => reached both.2]
      exact ⟨waits, finishes⟩

/-- After a round just those are still to be told who were so before and whom marking has not gone
over. -/
theorem status_held (self : course.SelfCompleting) {id : Identity} :
    course.held.registry.status? id = some .subscribed ↔
      course.registry.status? id = some .subscribed ∧
        course.registry.reaches course.plan id = false := by
  rw [registry_held self.minding, Registry.status?, Registry.find?_mapStatus, Registry.status?]
  cases found : course.registry.find? id with
  | none => simp
  | some e =>
    obtain ⟨member, rfl⟩ := Registry.find?_eq_some_iff.1 found
    by_cases told : e.status = .subscribed ∧ course.registry.reaches course.plan e.id = true
    · have ended : (e.receiver.leaves .notified).isTerminal = true := by
        rcases self e member (Registry.counts_of_reaches told.2) with ended | ⟨-, finishes⟩
        · rw [told.1] at ended
          cases ended
        · exact finishes.2
      have away : e.receiver.leaves .notified ≠ .subscribed := by
        intro same
        rw [same] at ended
        cases ended
      simp [told, away]
    · have free : e.status = .subscribed → course.registry.reaches course.plan e.id = false := by
        rwa [not_and, Bool.not_eq_true] at told
      simpa [if_neg told] using free

theorem due_held (self : course.SelfCompleting) (stage : List Role) :
    course.held.registry.due stage = (course.registry.due stage).filter
      fun role => !course.registry.reaches course.plan (.fixed role) := by
  rw [Registry.due, Registry.due, List.filter_filter]
  apply List.filter_congr
  intro role _
  rw [Bool.eq_iff_iff]
  simp [self.status_held, and_comm]

/-- Nobody with a name of their own is left to be told after a round. -/
theorem dueNames_held (self : course.SelfCompleting) : course.held.registry.dueNames = [] := by
  rw [List.eq_nil_iff_forall_not_mem]
  intro id inside
  obtain ⟨named, waits⟩ := Registry.mem_namedCalls_ids.1 inside
  have free := (self.status_held.1 waits).2
  rw [Registry.reaches, named] at free
  cases free

theorem due_held_of_nil (self : course.SelfCompleting) {stage : List Role}
    (nobody : course.registry.due stage = []) : course.held.registry.due stage = [] := by
  rw [self.due_held, nobody]
  rfl

theorem notified_report (course : Course ε) : course.report.notified = course.registry.dueNames ++
    (course.registry.due
      (course.plan.stageAt (course.registry.mark course.plan).blocked)).map .fixed := by
  show (course.registry.mark course.plan).calls.map Call.id = _
  rw [Registry.calls_mark, List.map_append, Registry.stageCalls_ids]
  rfl

/-- **What a round takes from the queue**: it tells the first part, and leaves the others. -/
theorem parts_held (self : course.SelfCompleting) :
    course.held.registry.parts course.plan.stages =
        (course.registry.parts course.plan.stages).tail ∧
      course.report.notified = course.registry.dueNames ++
        ((course.registry.parts course.plan.stages).headD []).map .fixed := by
  have free : ∀ stage ∈ course.plan.stages, ¬ course.registry.Holds stage →
      course.registry.due stage = [] := by
    intro stage member held
    by_contra some
    exact held ((self.holds_iff member).2 some)
  cases blocked : (course.registry.mark course.plan).blocked with
  | none =>
    have nobody : ∀ stage ∈ course.plan.stages, course.registry.due stage = [] :=
      fun stage member => free stage member (Registry.blocked_eq_none_iff.1 blocked stage member)
    rw [notified_report, blocked, Registry.parts_eq_nil_iff.2 nobody]
    refine ⟨Registry.parts_eq_nil_iff.2 ?_, rfl⟩
    intro stage member
    exact self.due_held_of_nil (nobody stage member)
  | some k =>
    obtain ⟨stage, held⟩ := Registry.blocked_eq_some_iff.1 blocked
    obtain ⟨front, back, split, before⟩ := held.split
    have past : ∀ other ∈ front, course.registry.due other = [] := by
      intro other inside
      exact free other (by simp [split, inside]) (before other inside)
    have waits : course.registry.due stage ≠ [] :=
      (self.holds_iff (by simp [split])).1 held.holds
    have told : course.held.registry.due stage = [] := by
      rw [self.due_held, List.filter_eq_nil_iff]
      intro role due
      simp [(held.reaches_iff role).2 (Registry.mem_due.1 due).1]
    have kept : ∀ later ∈ back, course.held.registry.due later = course.registry.due later := by
      intro later inside
      rw [self.due_held, List.filter_eq_self]
      intro role due
      have outside := Plan.not_mem_of_mem_later split inside (Registry.mem_due.1 due).1
      simpa using mt (held.reaches_iff role).1 outside
    have queue : course.registry.parts course.plan.stages =
        course.registry.due stage :: course.registry.parts back := by
      rw [split, Registry.parts_append, Registry.parts_cons_of_ne waits,
        Registry.parts_eq_nil_iff.2 past]
      rfl
    constructor
    · rw [queue, split, Registry.parts_append, Registry.parts_cons_of_nil told,
        Registry.parts_eq_nil_iff.2 fun other inside => self.due_held_of_nil (past other inside),
        Registry.parts_congr kept]
      rfl
    · rw [notified_report, held.stageAt, queue]
      rfl

/-- A shutdown that completes by itself is complete when nobody is left to be told. -/
theorem isComplete_iff (self : course.SelfCompleting) :
    course.registry.isComplete course.plan = true ↔
      course.registry.dueNames = [] ∧ course.registry.parts course.plan.stages = [] := by
  rw [Registry.isComplete_iff_awaited, Registry.parts_eq_nil_iff,
    List.eq_nil_iff_forall_not_mem]
  constructor
  · intro nobody
    constructor
    · rw [List.eq_nil_iff_forall_not_mem]
      intro id inside
      obtain ⟨named, waits⟩ := Registry.mem_namedCalls_ids.1 inside
      cases id with
      | fixed role => cases named
      | named name => exact nobody _ (Registry.mem_awaited.2 ⟨rfl, _, waits, rfl⟩)
    · intro stage member
      rw [List.eq_nil_iff_forall_not_mem]
      intro role inside
      obtain ⟨mine, waits⟩ := Registry.mem_due.1 inside
      have counts := Plan.counts_fixed_iff.2 ⟨stage, member, mine⟩
      exact nobody _ (Registry.mem_awaited.2 ⟨counts, _, waits, rfl⟩)
  · rintro ⟨names, staged⟩ id awaited
    obtain ⟨counts, status, found, going⟩ := Registry.mem_awaited.1 awaited
    rw [self.subscribed counts found going] at found
    cases id with
    | named name =>
      have due : Identity.named name ∈ course.registry.dueNames :=
        Registry.mem_namedCalls_ids.2 ⟨rfl, found⟩
      rw [names] at due
      cases due
    | fixed role =>
      obtain ⟨stage, member, inside⟩ := Plan.counts_fixed_iff.1 counts
      have due := Registry.mem_due.2 ⟨inside, found⟩
      rw [staged stage member] at due
      cases due

/-- A round finds the shutdown complete just if it has left nobody of the queue. -/
theorem complete_report (self : course.SelfCompleting) : course.report.complete =
    (course.registry.parts course.plan.stages).tail.isEmpty := by
  have planned : course.held.plan = course.plan := course.follow_plan _
  have left := self.held.isComplete_iff
  rw [planned, self.parts_held.1, self.dueNames_held] at left
  rw [Bool.eq_iff_iff, List.isEmpty_iff]
  exact left.trans (and_iff_right rfl)

end SelfCompleting

end Course

/-! ## What the coordinator's thread reports -/

/-- What a round of the coordinator's own reported that a deed has ended; the rounds of receivers
keep theirs to themselves. -/
def Deed.report? : Deed ε → Option Report
  | .own depth (.reported _ report) => if depth = 1 then some report else none
  | _ => none

/-- What the rounds of the coordinator's own have reported, in order. -/
def ownReports (history : List (Deed ε)) : List Report :=
  history.filterMap Deed.report?

theorem ownReports_concat (history : List (Deed ε)) (deed : Deed ε) :
    ownReports (history ++ [deed]) = ownReports history ++ deed.report?.toList := by
  rw [ownReports, List.filterMap_append]
  congr 1

def Outcome.report? : Outcome → Option Report
  | .report held => some held
  | _ => none

/-- What the thread learns from a step is what the step reports. -/
theorem Engaged.reports {history : List (Deed ε)} {thread : Thread ε}
    (engaged : Engaged history thread) (course : Course ε) (since : List Nat) :
    (Course.step (course, thread)).2.outcomes.filterMap Outcome.report? =
      thread.outcomes.filterMap Outcome.report? ++
        (Deed.own (rounds thread.stack).length
          (Member.next ⟨thread, since⟩ course)).report?.toList := by
  cases engaged with
  | opening stack outcomes =>
    rw [Course.step_of_acting course stack]
    simp [Member.next, stack, Course.act, Course.nextOf, Deed.report?]
  | @holding inner round nested stack outcomes =>
    cases inner with
    | cons top inner =>
      rw [(nested.step course stack).1]
      have silent : (Deed.own (rounds thread.stack).length
          (Member.next ⟨thread, since⟩ course)).report? = none := by
        cases nested with
        | @acting i script _ nested =>
          simp only [Member.next, stack, List.cons_append]
          cases script <;> rfl
        | @notifying own i script rest nested =>
          -- This round lies above the coordinator's own.
          simp only [Member.next, stack, List.cons_append]
          split
          · rfl
          · simp [Deed.report?, rounds]
      rw [silent]
      exact (List.append_nil _).symm
    | nil =>
      rw [Course.step_of_notifying course stack]
      cases pending : round.pending with
      | cons call calls =>
        simp [Course.notify, Member.next, stack, pending, Deed.report?]
      | nil =>
        simp [Course.notify, Course.record, Course.owner, Member.next, stack, pending,
          Deed.report?, outcomes, rounds, Outcome.report?]
  | closing stack outcomes reported =>
    rw [Course.step_of_acting course stack]
    simp [Member.next, stack, Course.act, Course.nextOf, Deed.report?]
  | ended stack outcomes reported =>
    rw [Course.step_of_nil course stack]
    simp [Member.next, stack, Deed.report?]

/-- The thread waits, and then holds a round. -/
inductive Phase.IsPause : Phase ε → Prop where
  | grace (left : Span) : IsPause (.grace left)
  | resting : IsPause .resting

namespace Crew

/-- The coordinator's thread gets a crew from one state to another while nobody else does
anything. -/
def Proceeds (crew after : Crew ε) : Prop :=
  ∃ count, crew.run (List.replicate count .advance) = after

theorem Proceeds.refl (crew : Crew ε) : crew.Proceeds crew := ⟨0, rfl⟩

theorem Proceeds.head {crew after : Crew ε} (rest : crew.advance.Proceeds after) :
    crew.Proceeds after := by
  obtain ⟨count, same⟩ := rest
  exact ⟨count + 1, same⟩

theorem Proceeds.trans {crew between after : Crew ε} (first : crew.Proceeds between)
    (second : between.Proceeds after) : crew.Proceeds after := by
  obtain ⟨count, rfl⟩ := first
  obtain ⟨more, rfl⟩ := second
  refine ⟨count + more, ?_⟩
  rw [List.replicate_add, run_append]

/-- The thread works until its round is over, and learns what the round reports. -/
theorem exists_proceeds_finish {crew : Crew ε} {thread : Thread ε}
    (working : crew.coordinator.phase = .working thread) (engaged : Engaged crew.history thread) :
    ∃ after, crew.Proceeds after ∧
      after.coordinator = { crew.coordinator with
        course := (Course.finish (crew.coordinator.course, thread)).1
        phase := Coordinator.phaseAfter (Course.finish (crew.coordinator.course, thread)).2 } ∧
      ∃ reports, ownReports after.history = ownReports crew.history ++ reports ∧
        (Course.finish (crew.coordinator.course, thread)).2.outcomes.filterMap Outcome.report? =
          thread.outcomes.filterMap Outcome.report? ++ reports := by
  -- Each step of the thread leaves less to be done.
  generalize budget : Course.work (crew.coordinator.course, thread) = n
  induction n using Nat.strongRecOn generalizing crew thread with
  | _ n ih =>
  by_cases empty : thread.stack = []
  · have last : thread.stack.isEmpty = true := List.isEmpty_iff.2 empty
    refine ⟨crew.advance, .head (.refl _), ?_, [], ?_, ?_⟩
    · show crew.coordinator.advance.1 = _
      rw [Course.finish_of_nil empty]
      simp only [Coordinator.advance, working, last, if_true]
    · show ownReports (crew.history ++ [crew.coordinator.deed crew.since]) = _
      rw [ownReports_concat]
      simp only [Coordinator.deed, working, last, if_true]
      rfl
    · rw [Course.finish_of_nil empty, List.append_nil]
  · have going : thread.stack.isEmpty = false := by simpa using empty
    have less := Course.work_step_lt (crew.coordinator.course, thread) empty
    have deed : crew.coordinator.deed crew.since = .own (rounds thread.stack).length
        (Member.next ⟨thread, crew.since⟩ crew.coordinator.course) := by
      simp [Coordinator.deed, working, going]
    have next : crew.advance.coordinator = { crew.coordinator with
        course := (Course.step (crew.coordinator.course, thread)).1
        phase := .working (Course.step (crew.coordinator.course, thread)).2 } := by
      show crew.coordinator.advance.1 = _
      simp [Coordinator.advance, working, going]
    have history : crew.advance.history = crew.history ++ [crew.coordinator.deed crew.since] := rfl
    have still : Engaged crew.advance.history
        (Course.step (crew.coordinator.course, thread)).2 := by
      rw [history, deed]
      exact engaged.step crew.coordinator.course crew.since
    obtain ⟨after, proceeds, reached, reports, told, learned⟩ :=
      ih _ (budget ▸ less) (congrArg Coordinator.phase next) still (by rw [next])
    have finish : Course.finish (crew.advance.coordinator.course,
        (Course.step (crew.coordinator.course, thread)).2) =
        Course.finish (crew.coordinator.course, thread) := by
      rw [next]
      exact (Course.finish_eq empty).symm
    rw [finish] at reached learned
    rw [next] at reached
    rw [engaged.reports crew.coordinator.course crew.since, List.append_assoc, ← deed] at learned
    rw [history, ownReports_concat, List.append_assoc] at told
    exact ⟨after, .head proceeds, reached, _, told, learned⟩

/-- The thread holds a round and goes by what it reports. -/
theorem exists_proceeds_held {crew : Crew ε} (pausing : crew.coordinator.phase.IsPause) :
    ∃ after, crew.Proceeds after ∧
      after.coordinator = { crew.coordinator with
        course := crew.coordinator.course.held
        phase := if crew.coordinator.course.report.complete then .closing else .resting } ∧
      ownReports after.history = ownReports crew.history ++ [crew.coordinator.course.report] := by
  have begins : crew.advance.coordinator =
      { crew.coordinator with phase := .working (.ofScript (.round .done)) } ∧
      crew.coordinator.deed crew.since = .passed := by
    generalize phase : crew.coordinator.phase = pause at pausing
    cases pausing <;> simp [Crew.advance, Coordinator.advance, Coordinator.deed, phase]
  obtain ⟨next, passed⟩ := begins
  obtain ⟨after, proceeds, reached, reports, told, learned⟩ :=
    exists_proceeds_finish (congrArg Coordinator.phase next)
      (.opening rfl rfl : Engaged crew.advance.history (Thread.ofScript (.round .done)))
  rw [next] at reached learned
  have outcomes : (Course.finish (crew.coordinator.course,
      (Thread.ofScript (.round .done) : Thread ε))).2.outcomes =
      [.report crew.coordinator.course.report] := crew.coordinator.course.outcomes_of_round
  rw [outcomes] at learned
  have only : reports = [crew.coordinator.course.report] := learned.symm
  have before : ownReports crew.advance.history = ownReports crew.history := by
    show ownReports (crew.history ++ [crew.coordinator.deed crew.since]) = _
    rw [ownReports_concat, passed]
    exact List.append_nil _
  refine ⟨after, .head proceeds, ?_, by rw [told, before, only]⟩
  rw [reached]
  simp only [Coordinator.phaseAfter, Coordinator.reportOf?, outcomes, List.getLast?_singleton]
  rfl

/-- Whom the rounds tell, and whether they find the shutdown complete: the first one tells `names`,
and each of them one of the parts, if there are any. -/
def schedule (names : List Identity) : List (List Role) → List (List Identity × Bool)
  | [] => [(names, true)]
  | [part] => [(names ++ part.map .fixed, true)]
  | part :: next :: parts => (names ++ part.map .fixed, false) :: schedule [] (next :: parts)

theorem length_schedule (names : List Identity) (parts : List (List Role)) :
    (schedule names parts).length = max 1 parts.length := by
  fun_induction schedule names parts with
  | case1 | case2 => rfl
  | case3 names part next parts ih =>
    simp only [List.length_cons] at ih ⊢
    omega

/-- All but the last round find the shutdown incomplete. -/
theorem complete_schedule (names : List Identity) (parts : List (List Role)) :
    (schedule names parts).map Prod.snd =
      List.replicate (max 1 parts.length - 1) false ++ [true] := by
  fun_induction schedule names parts with
  | case1 | case2 => rfl
  | case3 names part next parts ih =>
    have more : max 1 (part :: next :: parts).length - 1 =
        max 1 (next :: parts).length - 1 + 1 := by
      simp only [List.length_cons]
      omega
    rw [List.map_cons, ih, more, List.replicate_succ, List.cons_append]

theorem told_schedule (names : List Identity) (parts : List (List Role)) :
    (schedule names parts).flatMap Prod.fst = names ++ parts.flatten.map .fixed := by
  fun_induction schedule names parts with
  | case1 names | case2 names part => simp
  | case3 names part next parts ih =>
    rw [List.flatMap_cons, ih]
    simp only [List.flatten_cons, List.map_append, List.nil_append, List.append_assoc]

/-- The first round tells all those with a name of their own. -/
theorem schedule_eq_cons (names : List Identity) (parts : List (List Role)) :
    ∃ members complete rest, schedule names parts = (names ++ members, complete) :: rest := by
  fun_cases schedule names parts with
  | case1 => exact ⟨[], true, [], by rw [List.append_nil]⟩
  | case2 part => exact ⟨_, true, [], rfl⟩
  | case3 part next parts => exact ⟨_, false, _, rfl⟩

/-- What rounds that follow the schedule come to. -/
theorem follows_schedule {names : List Identity} {parts : List (List Role)} {reports : List Report}
    (scheduled : reports.map (fun report => (report.notified, report.complete)) =
      schedule names parts) :
    reports.length = max 1 parts.length ∧
      reports.map Report.complete = List.replicate (max 1 parts.length - 1) false ++ [true] ∧
      reports.flatMap Report.notified = names ++ parts.flatten.map .fixed ∧
      ∃ first rest members, reports = first :: rest ∧ first.notified = names ++ members := by
  refine ⟨?_, ?_, ?_, ?_⟩
  · rw [← length_schedule names parts, ← scheduled, List.length_map]
  · rw [← complete_schedule names parts, ← scheduled, List.map_map]
    rfl
  · rw [← told_schedule names parts, ← scheduled, List.flatMap_map]
  · obtain ⟨members, complete, others, cons⟩ := schedule_eq_cons names parts
    rw [cons, List.map_eq_cons_iff] at scheduled
    obtain ⟨first, rest, split, same, -⟩ := scheduled
    exact ⟨first, rest, members, split, congrArg Prod.fst same⟩

/-- The coordinator of a crew is left alone and works off a queue until the shutdown is complete. -/
structure WorksOff (crew : Crew ε) (parts : List (List Role)) (after : Crew ε) : Prop where
  proceeds : crew.Proceeds after
  closing : after.coordinator = { crew.coordinator with
    course := after.coordinator.course, phase := .closing }
  reports : ∃ reports, ownReports after.history = ownReports crew.history ++ reports ∧
    reports.map (fun report => (report.notified, report.complete)) =
      schedule crew.coordinator.course.registry.dueNames parts
  told : after.coordinator.course.calls.map CallRecord.id =
    crew.coordinator.course.calls.map CallRecord.id ++
      (crew.coordinator.course.registry.dueNames ++ parts.flatten.map .fixed)

/-- The last round tells whoever is left and finds the shutdown complete. -/
theorem exists_worksOff_of_last {parts : List (List Role)} {crew : Crew ε}
    (pausing : crew.coordinator.phase.IsPause)
    (self : crew.coordinator.course.SelfCompleting)
    (queue : crew.coordinator.course.registry.parts crew.coordinator.course.plan.stages = parts)
    (last : parts.length ≤ 1) : ∃ after, crew.WorksOff parts after := by
  obtain ⟨after, proceeds, reached, reports⟩ := exists_proceeds_held pausing
  have complete := self.complete_report
  have notified := self.parts_held.2
  have told := Course.told_held self.minding
  rw [queue] at complete notified
  have all : parts.tail.isEmpty = true ∧ (parts.headD []) = parts.flatten ∧
      schedule crew.coordinator.course.registry.dueNames parts =
        [(crew.coordinator.course.registry.dueNames ++ (parts.headD []).map .fixed, true)] := by
    match parts, last with
    | [], _ => exact ⟨rfl, rfl, by simp [schedule]⟩
    | [part], _ => exact ⟨rfl, by simp, rfl⟩
  obtain ⟨none, whole, only⟩ := all
  rw [none] at complete
  rw [complete, if_pos rfl] at reached
  refine ⟨after, proceeds, by rw [reached], ⟨_, reports, ?_⟩, ?_⟩
  · rw [only, List.map_singleton, notified, complete]
  · rw [reached, ← whole, ← notified]
    exact told

/-- A coordinator that is left alone while everybody ends their part when told works off the queue,
round by round. -/
theorem exists_worksOff {parts : List (List Role)} {crew : Crew ε}
    (pausing : crew.coordinator.phase.IsPause)
    (self : crew.coordinator.course.SelfCompleting)
    (queue : crew.coordinator.course.registry.parts crew.coordinator.course.plan.stages = parts) :
    ∃ after, crew.WorksOff parts after := by
  induction parts generalizing crew with
  | nil => exact exists_worksOff_of_last pausing self queue (Nat.zero_le _)
  | cons part parts ih =>
    cases parts with
    | nil => exact exists_worksOff_of_last pausing self queue (Nat.le_refl _)
    | cons next parts =>
      obtain ⟨between, proceeds, reached, reports⟩ := exists_proceeds_held pausing
      have complete := self.complete_report
      obtain ⟨left, notified⟩ := self.parts_held
      have told : crew.coordinator.course.held.calls.map CallRecord.id =
          crew.coordinator.course.calls.map CallRecord.id ++
            crew.coordinator.course.report.notified := Course.told_held self.minding
      rw [queue] at complete notified left
      rw [complete] at reached
      have planned : crew.coordinator.course.held.plan = crew.coordinator.course.plan :=
        crew.coordinator.course.follow_plan _
      have course : between.coordinator.course = crew.coordinator.course.held := by rw [reached]
      obtain ⟨after, worksOff⟩ := @ih between (by rw [reached]; exact .resting)
        (by rw [course]; exact self.held) (by rw [course, planned]; exact left)
      obtain ⟨more, later, scheduled⟩ := worksOff.reports
      have names : between.coordinator.course.registry.dueNames = [] := by
        rw [course]
        exact self.dueNames_held
      refine ⟨after, proceeds.trans worksOff.proceeds, ?_,
        ⟨crew.coordinator.course.report :: more, ?_, ?_⟩, ?_⟩
      · rw [worksOff.closing, reached]
      · rw [later, reports, List.append_assoc]
        rfl
      · rw [List.map_cons, notified, complete, scheduled, names]
        rfl
      · rw [worksOff.told, names, course, told, notified]
        simp only [List.headD_cons, List.flatten_cons, List.map_append, List.nil_append,
          List.append_assoc]

/-- A coordinator that has found the shutdown complete says so, once. -/
theorem exists_proceeds_over {crew : Crew ε} (closing : crew.coordinator.phase = .closing)
    (unfinished : crew.coordinator.finished = false) :
    ∃ after, crew.Proceeds after ∧
      after.coordinator = { crew.coordinator with
        phase := .over
        finished := true
        completions := crew.coordinator.completions + 1 } ∧
      ownReports after.history = ownReports crew.history := by
  have next : crew.coordinator.advance.1 =
      { crew.coordinator with finished := true, phase := .completing } := by
    simp [Coordinator.advance, closing, unfinished]
  have passed : crew.coordinator.deed crew.since = .passed := by
    simp [Coordinator.deed, closing]
  refine ⟨crew.advance.advance, .head (.head (.refl _)), ?_, ?_⟩
  · show crew.coordinator.advance.1.advance.1 = _
    rw [next]
    rfl
  · show ownReports (crew.history ++ [crew.coordinator.deed crew.since] ++
      [crew.coordinator.advance.1.deed _]) = _
    rw [ownReports_concat, ownReports_concat, passed, next]
    simp [Coordinator.deed, Deed.report?]

/-- A coordinator that has ended does nothing more. -/
theorem run_of_over {crew : Crew ε} (ended : crew.coordinator.phase = .over) (more : Nat) :
    (crew.run (List.replicate more .advance)).coordinator = crew.coordinator ∧
      ownReports (crew.run (List.replicate more .advance)).history = ownReports crew.history := by
  induction more generalizing crew with
  | zero => exact ⟨rfl, rfl⟩
  | succ more ih =>
    have still : crew.advance.coordinator = crew.coordinator := by
      show crew.coordinator.advance.1 = _
      simp [Coordinator.advance, ended]
    have silent : ownReports crew.advance.history = ownReports crew.history := by
      show ownReports (crew.history ++ [crew.coordinator.deed crew.since]) = _
      rw [ownReports_concat]
      simp [Coordinator.deed, ended, Deed.report?]
    obtain ⟨same, reports⟩ := @ih crew.advance (by rw [still, ended])
    exact ⟨same.trans still, reports.trans silent⟩

end Crew

/-- Whoever is told in a shutdown that completes by itself is told once. -/
theorem Registry.nodup_due (r : Registry ρ) (plan : Plan) :
    (r.dueNames ++ (r.due plan.roles).map Identity.fixed).Nodup := by
  rw [List.nodup_append]
  refine ⟨r.marks_named.once, ?_, ?_⟩
  · have once : (r.due plan.roles).Nodup := plan.nodup.filter _
    exact List.pairwise_map.2 (once.imp fun different same => different (Identity.fixed.inj same))
  · rintro id inside other staged rfl
    obtain ⟨role, -, rfl⟩ := List.mem_map.1 staged
    cases (Registry.mem_namedCalls_ids.1 inside).1

/-- **A shutdown that completes by itself takes a round for each stage.**  If everybody who counts
has ended or is still to be told, and whoever is told ends their part there and then and touches no
other, and nobody else does anything, the coordinator's thread holds one round for each stage of
which somebody is still to be told, or one if there is none.  The last one, and no other, finds the
shutdown complete; then the coordinator says so and has ended.  Those with a name of their own are
told in the first round, and then the others in the order of the plan, everybody once. -/
theorem a_round_for_each_stage {c : Coordinator ε} {left : Span} (started : c.phase = .grace left)
    (unfinished : c.finished = false) (self : c.course.SelfCompleting) :
    let waits : Role → Bool := fun role =>
      c.course.registry.status? (.fixed role) = some .subscribed
    let rounds := max 1 (c.course.plan.stages.filter (·.any waits)).length
    let staged := (c.course.plan.roles.filter waits).map Identity.fixed
    let crew : Crew ε := ⟨c, [], [], []⟩
    ∃ count names,
      let after := crew.run (List.replicate count .advance)
      let reports := ownReports after.history
      (∀ id, id ∈ names ↔
        id.isNamed = true ∧ c.course.registry.status? id = some .subscribed) ∧
      (names ++ staged).Nodup ∧
      reports.length = rounds ∧
      reports.map Report.complete = List.replicate (rounds - 1) false ++ [true] ∧
      reports.flatMap Report.notified = names ++ staged ∧
      (∃ first rest members, reports = first :: rest ∧ first.notified = names ++ members) ∧
      after.coordinator.course.calls.map CallRecord.id =
        c.course.calls.map CallRecord.id ++ (names ++ staged) ∧
      after.coordinator = { c with
        course := after.coordinator.course
        phase := .over
        finished := true
        completions := c.completions + 1 } ∧
      ∀ more, (after.run (List.replicate more .advance)).coordinator = after.coordinator ∧
        ownReports (after.run (List.replicate more .advance)).history = reports := by
  intro waits rounds staged crew
  have pausing : crew.coordinator.phase.IsPause := by
    show c.phase.IsPause
    rw [started]
    exact .grace left
  obtain ⟨between, worksOff⟩ := @Crew.exists_worksOff ε _ crew pausing self rfl
  have closes := worksOff.closing
  obtain ⟨after, proceeds, reached, silent⟩ := Crew.exists_proceeds_over
    (congrArg Coordinator.phase closes) ((congrArg Coordinator.finished closes).trans unfinished)
  obtain ⟨count, rfl⟩ := worksOff.proceeds.trans proceeds
  obtain ⟨reports, told, scheduled⟩ := worksOff.reports
  have mine : ownReports (crew.run (List.replicate count .advance)).history = reports :=
    silent.trans told
  have length : (c.course.registry.parts c.course.plan.stages).length =
      (c.course.plan.stages.filter (·.any waits)).length := c.course.registry.length_parts _
  have flat : (c.course.registry.parts c.course.plan.stages).flatten =
      c.course.plan.roles.filter waits := c.course.registry.flatten_parts _
  obtain ⟨many, complete, notified, first⟩ := Crew.follows_schedule scheduled
  rw [length] at many complete
  have calls := worksOff.told
  rw [flat] at notified calls
  refine ⟨count, c.course.registry.dueNames, fun id => Registry.mem_namedCalls_ids,
    c.course.registry.nodup_due c.course.plan, ?_, ?_, ?_, ?_, ?_, ?_, ?_⟩
  · rw [mine, many]
  · rw [mine, complete]
  · rw [mine, notified]
  · rw [mine]
    exact first
  · rw [reached]
    exact calls
  · rw [reached, closes]
  · intro more
    exact Crew.run_of_over (by rw [reached]) more

/-- One with a name of its own and members of the first and of the third stage are still to be told,
and a member of the second one has ended. -/
def dusk : Coordinator Unit where
  course :=
    { plan := .standard
      registry :=
        { entries :=
            [⟨.fixed .mqttUploader, .markReady (.fixed .mqttUploader) .done, .subscribed⟩,
              ⟨.named "cache", .withdraw (.named "cache") .done, .subscribed⟩,
              ⟨.fixed .messageController, .done, .shutdownCompleted⟩,
              ⟨.fixed .midHandler, .markReady (.fixed .midHandler) .done, .subscribed⟩]
          nodup := by decide }
      calls := [] }
  timing := .standard
  phase := .grace Timing.standard.grace
  finished := false
  completions := 0

/-- There is a round for the first stage and one for the third, and the second one completes. -/
theorem a_round_for_each_stage_dusk :
    ∃ count names, (∀ id, id ∈ names ↔
        id.isNamed = true ∧ dusk.course.registry.status? id = some .subscribed) ∧
      let after := (Crew.mk dusk [] [] []).run (List.replicate count .advance)
      (ownReports after.history).map Report.complete = [false, true] ∧
        after.coordinator.course.calls.map CallRecord.id =
          names ++ [.fixed .midHandler, .fixed .mqttUploader] ∧
        after.coordinator.completions = 1 := by
  have self : dusk.course.SelfCompleting := by
    show ∀ e ∈ [_, _, _, _], _
    simp only [List.forall_mem_cons]
    refine ⟨fun _ => .inr ?_, fun _ => .inr ?_, fun _ => .inl rfl, fun _ => .inr ?_,
      List.forall_mem_nil _⟩
    all_goals exact ⟨trivial, ⟨rfl, trivial⟩, rfl⟩
  obtain ⟨count, names, due, -, -, complete, -, -, calls, ended, -⟩ :=
    a_round_for_each_stage (c := dusk) rfl rfl self
  exact ⟨count, names, due, complete, calls, congrArg Coordinator.completions ended⟩

end Telematics.Shutdown
