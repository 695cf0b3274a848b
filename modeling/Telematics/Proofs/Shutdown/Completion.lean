/-
# Telematics.Proofs.Shutdown.Completion -- when a shutdown is said to be complete

A crew is a coordinator among everybody else who does something with its
registry.  Others may try to start the coordinator, come with scripts of their
own, and hold rounds, between any two steps of the coordinator's thread, and the
entries of the registry may come to stand in another order.

The thread says that the shutdown is complete once at most, and only after a
round of its own has looked and found that nobody is awaited
(`completion_follows_check`).  Whoever was registered before that look, and
counts, has ended by then or has been registered again; who comes later is not
waited for.  The first one that starts the coordinator succeeds, and nobody else.
What time brings about while nobody else does anything is some steps of the
thread, so it tells nobody twice either (`told_once_elapse`).

What carries this: the report that the thread goes by is that of its outermost
round, since receivers that are told keep theirs to themselves (`Engaged`); and
the phases that come after such a report have it behind them (`Behind`).
-/
import Telematics.Proofs.Shutdown.Account
import Telematics.Proofs.Shutdown.Alone
import Telematics.Proofs.Shutdown.Convergence

namespace Telematics.Shutdown

set_option autoImplicit false

variable {ε : Type}

/-- What a step of a crew did. -/
inductive Deed (ε : Type) where
  /-- Somebody who is not the coordinator did something. -/
  | other (happening : Happening ε)
  /-- The coordinator's thread did something while it held so many rounds, one within the other. -/
  | own (depth : Nat) (happening : Happening ε)
  /-- Somebody asked the coordinator to start. -/
  | started (result : Except StartError Unit)
  /-- The coordinator told whoever waits for the completion. -/
  | completed
  /-- The coordinator's thread went on to something else. -/
  | passed

namespace Deed

/-- What a deed did to the registry. -/
def happening : Deed ε → Happening ε
  | .other happening => happening
  | .own _ happening => happening
  | _ => .nothing

def result? : Deed ε → Option (Except StartError Unit)
  | .started result => some result
  | _ => none

def isCompletion : Deed ε → Bool
  | .completed => true
  | _ => false

end Deed

/-- What happened to the registry. -/
def happenings (history : List (Deed ε)) : List (Happening ε) :=
  history.map Deed.happening

/-- What became of each attempt to start the coordinator. -/
def startResults (history : List (Deed ε)) : List (Except StartError Unit) :=
  history.filterMap Deed.result?

/-- A coordinator among others. -/
structure Crew (ε : Type) where
  coordinator : Coordinator ε
  /-- The moments at which the rounds of the coordinator's thread have marked. -/
  since : List Nat
  members : List (Member ε)
  history : List (Deed ε)

/-- What the next step of a coordinator's thread is going to do, `since` being the moments at which
its rounds have marked. -/
def Coordinator.deed (c : Coordinator ε) (since : List Nat) : Deed ε :=
  match c.phase with
  | .working thread =>
    if thread.stack.isEmpty then .passed
    else .own (rounds thread.stack).length (Member.next ⟨thread, since⟩ c.course)
  | .completing => .completed
  | _ => .passed

namespace Crew

/-- What happens next. -/
inductive Choice (ε : Type) where
  /-- Somebody comes who will follow a script. -/
  | enter (script : Script ε)
  /-- The entries of the registry come to stand in the order of a key. -/
  | arrange (key : Identity → Nat)
  /-- The member with this number takes a step. -/
  | turn (number : Nat)
  /-- Somebody starts the coordinator; `spawned` says whether there is a thread for it. -/
  | start (spawned : Except SystemError Unit)
  /-- The coordinator's thread takes a step. -/
  | advance

def Choice.spawned? : Choice ε → Option (Except SystemError Unit)
  | .start spawned => some spawned
  | _ => none

/-- A coordinator that has not been started, and nobody else. -/
def start (plan : Plan) (timing : Timing) : Crew ε := ⟨.new plan timing, [], [], []⟩

/-- The entries of the registry come to stand in the order of a key. -/
def arrange (crew : Crew ε) (key : Identity → Nat) : Crew ε :=
  let course := crew.coordinator.course
  { crew with
    coordinator := { crew.coordinator with
      course := { course with registry := course.registry.arrange key } } }

def turn (crew : Crew ε) (number : Nat) (m : Member ε) : Crew ε :=
  let (course, thread) := Course.step (crew.coordinator.course, m.thread)
  let happening := m.next crew.coordinator.course
  { crew with
    coordinator := { crew.coordinator with course }
    members := crew.members.set number
      ⟨thread, happening.sinceAfter crew.history.length m.since⟩
    history := crew.history ++ [.other happening] }

def begin (crew : Crew ε) (spawned : Except SystemError Unit) : Crew ε :=
  match crew.coordinator.start spawned with
  | .ok coordinator => { crew with coordinator, history := crew.history ++ [.started (.ok ())] }
  | .error e => { crew with history := crew.history ++ [.started (.error e)] }

def advance (crew : Crew ε) : Crew ε :=
  let deed := crew.coordinator.deed crew.since
  { crew with
    coordinator := crew.coordinator.advance.1
    since := deed.happening.sinceAfter crew.history.length crew.since
    history := crew.history ++ [deed] }

def step (crew : Crew ε) : Choice ε → Crew ε
  | .enter script => { crew with members := crew.members ++ [⟨.ofScript script, []⟩] }
  | .arrange key => crew.arrange key
  | .turn number =>
    match crew.members[number]? with
    | some m => crew.turn number m
    | none => crew
  | .start spawned => crew.begin spawned
  | .advance => crew.advance

/-- What a number of choices lead to. -/
def run (crew : Crew ε) (choices : List (Choice ε)) : Crew ε :=
  choices.foldl step crew

/-- What every step of a run keeps holds after the run. -/
theorem run_induction {P : Crew ε → Prop}
    (step : ∀ crew choice, P crew → P (crew.step choice)) {crew : Crew ε} (first : P crew)
    (choices : List (Choice ε)) : P (crew.run choices) := by
  induction choices generalizing crew with
  | nil => exact first
  | cons choice choices ih => exact ih (step crew choice first)

end Crew

/-! ## The coordinator's thread -/

/-- What lies on a stack above a round is the scripts of receivers that have been told, and rounds
that these hold. -/
inductive Nested : List (Activity ε) → Prop where
  | nil : Nested []
  | acting {i : Nat} {script : Script ε} {inner : List (Activity ε)} (nested : Nested inner) :
      Nested (.acting (some i) script :: inner)
  | notifying {round : Round ε} {i : Nat} {script : Script ε} {inner : List (Activity ε)}
      (nested : Nested (.acting (some i) script :: inner)) :
      Nested (.notifying round :: .acting (some i) script :: inner)

/-- A receiver that has been told does its work without the thread's learning anything. -/
theorem Nested.step {base : List (Activity ε)} {top : Activity ε} {inner : List (Activity ε)}
    (nested : Nested (top :: inner)) (course : Course ε) {thread : Thread ε}
    (stack : thread.stack = top :: inner ++ base) :
    (Course.step (course, thread)).2.outcomes = thread.outcomes ∧
      ∃ next, Nested next ∧ (Course.step (course, thread)).2.stack = next ++ base := by
  cases nested with
  | @acting i script _ nested =>
    rw [Course.step_of_acting course stack]
    have others : ∀ next : Script ε, ∃ after, Nested after ∧
        .acting (some i) next :: (inner ++ base) = after ++ base :=
      fun next => ⟨.acting (some i) next :: inner, nested.acting, rfl⟩
    cases script with
    | done => exact ⟨rfl, inner, nested, rfl⟩
    | round next => exact ⟨rfl, _ :: .acting (some i) next :: inner, nested.acting.notifying, rfl⟩
    | _ => exact ⟨rfl, others _⟩
  | @notifying round i script rest nested =>
    rw [Course.step_of_notifying course stack, Course.notify]
    split
    · exact ⟨rfl, .acting (some _) _ :: .notifying _ :: .acting (some i) script :: rest,
        nested.notifying.acting, rfl⟩
    · exact ⟨rfl, .acting (some i) script :: rest, nested, rfl⟩

/-- The coordinator's thread ended a round that was not within another one, and the round reported
this. -/
def Reported (history : List (Deed ε)) (report : Report) : Prop :=
  ∃ (check since : Nat), history[check]? = some (.own 1 (.reported since report))

theorem Reported.concat {history : List (Deed ε)} {report : Report}
    (reported : Reported history report) (deed : Deed ε) : Reported (history ++ [deed]) report := by
  obtain ⟨check, since, there⟩ := reported
  exact ⟨check, since, getElem?_concat there deed⟩

/-- How far a thread of the coordinator is with the round for which it is there. -/
inductive Engaged (history : List (Deed ε)) (thread : Thread ε) : Prop where
  | opening (stack : thread.stack = [.acting none (.round .done)]) (outcomes : thread.outcomes = [])
  | holding {inner : List (Activity ε)} {round : Round ε} (nested : Nested inner)
      (stack : thread.stack = inner ++ [.notifying round, .acting none .done])
      (outcomes : thread.outcomes = [])
  | closing {report : Report} (stack : thread.stack = [.acting none .done])
      (outcomes : thread.outcomes = [.report report]) (reported : Reported history report)
  | ended {report : Report} (stack : thread.stack = [])
      (outcomes : thread.outcomes = [.report report]) (reported : Reported history report)

theorem Engaged.concat {history : List (Deed ε)} {thread : Thread ε}
    (engaged : Engaged history thread) (deed : Deed ε) : Engaged (history ++ [deed]) thread := by
  cases engaged with
  | opening stack outcomes => exact .opening stack outcomes
  | holding nested stack outcomes => exact .holding nested stack outcomes
  | closing stack outcomes reported => exact .closing stack outcomes (reported.concat deed)
  | ended stack outcomes reported => exact .ended stack outcomes (reported.concat deed)

/-- Every step of the thread keeps its place, and its round is over with a report. -/
theorem Engaged.step {history : List (Deed ε)} {thread : Thread ε}
    (engaged : Engaged history thread) (course : Course ε) (since : List Nat) :
    Engaged (history ++ [.own (rounds thread.stack).length (Member.next ⟨thread, since⟩ course)])
      (Course.step (course, thread)).2 := by
  cases engaged with
  | opening stack outcomes =>
    rw [Course.step_of_acting course stack]
    exact .holding .nil rfl outcomes
  | @holding inner round nested stack outcomes =>
    cases inner with
    | cons top inner =>
      -- What a receiver does lies above the round and leaves no outcome.
      obtain ⟨same, next, nested, after⟩ := nested.step course stack
      exact .holding nested after (same.trans outcomes)
    | nil =>
      cases pending : round.pending with
      | cons call calls =>
        rw [Course.step_of_notifying course stack]
        simp only [Course.notify, pending]
        exact .holding (.acting .nil) rfl outcomes
      | nil =>
        have next : Member.next ⟨thread, since⟩ course = .reported (since.headD 0)
            ⟨round.notified, round.blocked, course.registry.isComplete course.plan⟩ := by
          simp only [Member.next, stack, List.nil_append, pending]
        rw [Course.step_of_notifying course stack, next, stack]
        simp only [Course.notify, pending]
        have reported : Reported (history ++ [.own (rounds [.notifying round,
            .acting none .done]).length (.reported (since.headD 0) ⟨round.notified, round.blocked,
              course.registry.isComplete course.plan⟩)])
            ⟨round.notified, round.blocked, course.registry.isComplete course.plan⟩ :=
          ⟨history.length, since.headD 0, List.getElem?_concat_length⟩
        exact .closing rfl (by simp [Course.record, Course.owner, outcomes]) reported
  | closing stack outcomes reported =>
    rw [Course.step_of_acting course stack]
    exact .ended rfl outcomes (reported.concat _)
  | ended stack outcomes reported =>
    rw [Course.step_of_nil course stack]
    exact .ended stack outcomes (reported.concat _)

/-! ## What every run keeps -/

/-- The coordinator's thread has held a round that found the shutdown complete. -/
def Checked (history : List (Deed ε)) : Prop :=
  ∃ report, Reported history report ∧ report.complete = true

theorem Checked.concat {history : List (Deed ε)} (checked : Checked history) (deed : Deed ε) :
    Checked (history ++ [deed]) := by
  obtain ⟨report, reported, complete⟩ := checked
  exact ⟨report, reported.concat deed, complete⟩

/-- What the coordinator's thread has behind it in a phase. -/
def Behind (history : List (Deed ε)) : Phase ε → Prop
  | .idle | .grace _ | .resting => True
  | .working thread => Engaged history thread
  | .closing | .completing | .over => Checked history

theorem Behind.concat {history : List (Deed ε)} {phase : Phase ε} (behind : Behind history phase)
    (deed : Deed ε) : Behind (history ++ [deed]) phase := by
  cases phase with
  | idle | grace left | resting => trivial
  | working thread => exact Engaged.concat behind deed
  | _ => exact Checked.concat behind deed

/-- A round that is over sends the thread to rest, or it has found the shutdown complete. -/
theorem Engaged.phaseAfter {history : List (Deed ε)} {thread : Thread ε}
    (engaged : Engaged history thread) (last : thread.stack = []) :
    Coordinator.phaseAfter thread = .resting ∨
      Coordinator.phaseAfter thread = .closing ∧ Checked history := by
  cases engaged with
  | opening stack outcomes => cases stack.symm.trans last
  | holding nested stack outcomes => simp [stack] at last
  | closing stack outcomes reported => cases stack.symm.trans last
  | @ended report stack outcomes reported =>
    have found : Coordinator.reportOf? thread = some report := by
      rw [Coordinator.reportOf?, outcomes]
      rfl
    rcases Coordinator.phaseAfter_cases thread with rests | ⟨other, same, complete, closes⟩
    · exact .inl rests
    · cases found.symm.trans same
      exact .inr ⟨closes, report, reported, complete⟩

/-- Nobody has started the coordinator. -/
def Phase.isIdle : Phase ε → Bool
  | .idle => true
  | _ => false

theorem Coordinator.isIdle_phaseAfter (thread : Thread ε) : (phaseAfter thread).isIdle = false := by
  rcases phaseAfter_cases thread with rests | ⟨-, -, -, closes⟩
  · rw [rests]
    rfl
  · rw [closes]
    rfl

/-- The coordinator is finished in these phases. -/
def Phase.isFinished : Phase ε → Bool
  | .completing | .over => true
  | _ => false

/-- How often those who wait for the completion have been told. -/
def Phase.told : Phase ε → Nat
  | .over => 1
  | _ => 0

theorem Phase.told_le_one (phase : Phase ε) : phase.told ≤ 1 := by
  cases phase <;> simp [told]

theorem Phase.isFinished_of_told {phase : Phase ε} (told : 0 < phase.told) :
    phase.isFinished = true := by
  cases phase with
  | idle | grace | resting | working | closing | completing => cases told
  | _ => rfl

namespace Crew

/-- The entries of the registry follow from the history, and the coordinator goes by what its
rounds have reported. -/
structure Sound (plan : Plan) (crew : Crew ε) : Prop where
  planned : crew.coordinator.course.plan = plan
  registry : crew.coordinator.course.registry.entries.Perm
    (replay plan (happenings crew.history)).entries
  fits : Fitting plan (happenings crew.history)
  behind : Behind crew.history crew.coordinator.phase
  finished : crew.coordinator.finished = crew.coordinator.phase.isFinished
  completions : crew.coordinator.completions = crew.coordinator.phase.told
  counted : crew.coordinator.completions = crew.history.countP Deed.isCompletion
  checked : ∀ time, crew.history[time]? = some .completed → Checked (crew.history.take time)

variable {plan : Plan} {crew : Crew ε}

theorem happenings_concat (history : List (Deed ε)) (deed : Deed ε) :
    happenings (history ++ [deed]) = happenings history ++ [deed.happening] :=
  List.map_append

theorem Sound.extend (sound : crew.Sound plan) {coordinator : Coordinator ε} {deed : Deed ε}
    (planned : coordinator.course.plan = crew.coordinator.course.plan)
    (registry : coordinator.course.registry =
      deed.happening.registryAfter plan crew.coordinator.course.registry)
    (fits : deed.happening.Fits plan crew.coordinator.course.registry)
    (behind : Behind (crew.history ++ [deed]) coordinator.phase)
    (finished : coordinator.finished = coordinator.phase.isFinished)
    (completions : coordinator.completions = coordinator.phase.told)
    (told : coordinator.completions =
      crew.coordinator.completions + if deed.isCompletion then 1 else 0)
    (look : deed.isCompletion = true → Checked crew.history) (since : List Nat)
    (members : List (Member ε)) :
    Sound plan ⟨coordinator, since, members, crew.history ++ [deed]⟩ where
  planned := planned.trans sound.planned
  registry := by
    show coordinator.course.registry.entries.Perm
      (replay plan (happenings (crew.history ++ [deed]))).entries
    rw [registry, happenings_concat, replay_concat]
    exact Happening.registryAfter_of_perm sound.registry plan _
  fits := by
    show Fitting plan (happenings (crew.history ++ [deed]))
    rw [happenings_concat]
    exact sound.fits.concat (fits.of_perm sound.registry)
  behind := behind
  finished := finished
  completions := completions
  counted := by
    show coordinator.completions = (crew.history ++ [deed]).countP Deed.isCompletion
    rw [told, sound.counted, List.countP_append, List.countP_singleton]
  checked := by
    intro time there
    show Checked ((crew.history ++ [deed]).take time)
    rcases getElem?_concat_cases there with ⟨past, there⟩ | ⟨rfl, now⟩
    · rw [List.take_append_of_le_length (Nat.le_of_lt past)]
      exact sound.checked time there
    · rw [List.take_left]
      exact look (now ▸ rfl)

/-- A step of a thread. -/
theorem Sound.act (sound : crew.Sound plan) (m : Member ε) (deed : Deed ε) (phase : Phase ε)
    (same : deed.happening = m.next crew.coordinator.course) (other : deed.isCompletion = false)
    (behind : Behind (crew.history ++ [deed]) phase)
    (finished : phase.isFinished = crew.coordinator.phase.isFinished)
    (told : phase.told = crew.coordinator.phase.told) (since : List Nat)
    (members : List (Member ε)) :
    Sound plan ⟨{ crew.coordinator with
        course := (Course.step (crew.coordinator.course, m.thread)).1, phase },
      since, members, crew.history ++ [deed]⟩ := by
  apply sound.extend
  · exact Course.step_plan (crew.coordinator.course, m.thread)
  · show (Course.step (crew.coordinator.course, m.thread)).1.registry = _
    rw [registry_step, same, sound.planned]
  · rw [same, ← sound.planned]
    exact m.fits_next crew.coordinator.course
  · exact behind
  · exact sound.finished.trans finished.symm
  · exact sound.completions.trans told.symm
  · simp [other]
  · simp [other]

/-- The coordinator goes on to something else, and leaves the registry alone. -/
theorem Sound.pass (sound : crew.Sound plan) (deed : Deed ε) (phase : Phase ε) {finished : Bool}
    (nothing : deed.happening = .nothing) (other : deed.isCompletion = false)
    (behind : Behind (crew.history ++ [deed]) phase) (fits : finished = phase.isFinished)
    (told : phase.told = crew.coordinator.phase.told) (since : List Nat) :
    Sound plan ⟨{ crew.coordinator with phase, finished }, since, crew.members,
      crew.history ++ [deed]⟩ := by
  apply sound.extend
  · rfl
  · rw [nothing]
    rfl
  · rw [nothing]
    trivial
  · exact behind
  · exact fits
  · exact sound.completions.trans told.symm
  · simp [other]
  · simp [other]

/-- Somebody does something that the coordinator does not notice. -/
theorem Sound.idle (sound : crew.Sound plan) (deed : Deed ε) (nothing : deed.happening = .nothing)
    (other : deed.isCompletion = false) (since : List Nat) :
    Sound plan { crew with since, history := crew.history ++ [deed] } :=
  sound.pass deed _ nothing other (sound.behind.concat deed) sound.finished rfl since

theorem Sound.begin (sound : crew.Sound plan) (spawned : Except SystemError Unit) :
    (crew.begin spawned).Sound plan := by
  unfold Crew.begin
  cases phase : crew.coordinator.phase with
  | idle =>
    simp only [Coordinator.start, phase]
    cases spawned with
    | ok done =>
      have finished : crew.coordinator.finished = false := by
        rw [sound.finished, phase]
        rfl
      exact sound.pass (.started (.ok ())) (.grace _) rfl rfl trivial finished (phase ▸ rfl) _
    | error e => exact sound.idle (.started _) rfl rfl _
  | _ =>
    simp only [Coordinator.start, phase]
    exact sound.idle (.started _) rfl rfl _

theorem Sound.advance (sound : crew.Sound plan) : crew.advance.Sound plan := by
  have behind := sound.behind
  have finished := sound.finished
  have completions := sound.completions
  unfold Crew.advance
  cases phase : crew.coordinator.phase with
  | grace | resting =>
    rw [phase] at finished
    simp only [Coordinator.advance, Coordinator.deed, phase]
    exact sound.pass .passed (.working _) rfl rfl (Engaged.opening rfl rfl) finished (phase ▸ rfl) _
  | working thread =>
    rw [phase] at behind finished
    cases last : thread.stack with
    | nil =>
      simp only [Coordinator.advance, Coordinator.deed, phase, last, List.isEmpty_nil, if_true]
      rcases behind.phaseAfter last with rests | ⟨closes, checked⟩
      · rw [rests]
        exact sound.pass .passed .resting rfl rfl trivial finished (phase ▸ rfl) _
      · rw [closes]
        exact sound.pass .passed .closing rfl rfl (checked.concat _) finished (phase ▸ rfl) _
    | cons activity inner =>
      simp only [Coordinator.advance, Coordinator.deed, phase, last, List.isEmpty_cons,
        Bool.false_eq_true, if_false]
      rw [← last]
      exact sound.act ⟨thread, crew.since⟩ (.own _ _) (.working _) rfl rfl
        (behind.step crew.coordinator.course crew.since) (phase ▸ rfl) (phase ▸ rfl) _ _
  | closing =>
    rw [phase] at behind finished
    have open_ : crew.coordinator.finished = false := finished
    simp only [Coordinator.advance, Coordinator.deed, phase, open_, Bool.false_eq_true, if_false]
    exact sound.pass .passed .completing rfl rfl (Checked.concat behind _) rfl (phase ▸ rfl) _
  | completing =>
    rw [phase] at behind finished completions
    simp only [Coordinator.advance, Coordinator.deed, phase]
    apply sound.extend
    · rfl
    · rfl
    · trivial
    · exact Checked.concat behind _
    · exact finished
    · exact congrArg (· + 1) completions
    · rfl
    · exact fun _ => behind
  | _ =>
    simp only [Coordinator.advance, Coordinator.deed, phase]
    exact sound.idle .passed rfl rfl _

theorem Sound.arrange (sound : crew.Sound plan) (key : Identity → Nat) :
    (crew.arrange key).Sound plan :=
  { sound with
    registry := (crew.coordinator.course.registry.arrange_perm key).trans sound.registry }

theorem Sound.turn (sound : crew.Sound plan) (number : Nat) (m : Member ε) :
    (crew.turn number m).Sound plan :=
  sound.act m (.other _) _ rfl rfl (sound.behind.concat _) rfl rfl crew.since _

theorem Sound.step (sound : crew.Sound plan) (choice : Choice ε) :
    (crew.step choice).Sound plan := by
  cases choice with
  | enter script => exact { sound with }
  | arrange key => exact sound.arrange key
  | turn number =>
    rw [Crew.step]
    split
    · exact sound.turn number _
    · exact sound
  | start spawned => exact sound.begin spawned
  | advance => exact sound.advance

theorem sound_run (plan : Plan) (timing : Timing) (choices : List (Choice ε)) :
    ((start plan timing).run choices).Sound plan := by
  apply run_induction (P := Sound plan)
  · exact fun crew choice sound => sound.step choice
  · exact ⟨rfl, .refl _, .nil plan, trivial, rfl, rfl, rfl, nofun⟩

/-! ## Who starts the coordinator -/

theorem startResults_concat (history : List (Deed ε)) (deed : Deed ε) :
    startResults (history ++ [deed]) = startResults history ++ deed.result?.toList := by
  rw [startResults, List.filterMap_append]
  cases deed <;> rfl

/-- What those hear who start a coordinator one after another, `idle` saying that nobody has done so
before. -/
def answers : Bool → List (Except SystemError Unit) → List (Except StartError Unit)
  | _, [] => []
  | false, _ :: rest => .error .alreadyStarted :: answers false rest
  | true, .error e :: rest => .error (.noThread e) :: answers true rest
  | true, .ok () :: rest => .ok () :: answers false rest

theorem answers_false (starts : List (Except SystemError Unit)) :
    answers false starts = List.replicate starts.length (.error .alreadyStarted) := by
  induction starts with
  | nil => rfl
  | cons first rest ih => rw [answers, ih, List.length_cons, List.replicate_succ]

/-- The thread does not start itself, and once there it does not go away. -/
theorem isIdle_advance (c : Coordinator ε) : c.advance.1.phase.isIdle = c.phase.isIdle := by
  cases phase : c.phase with
  | working thread =>
    simp only [Coordinator.advance, phase]
    split
    · exact Coordinator.isIdle_phaseAfter thread
    · rfl
  | closing =>
    simp only [Coordinator.advance, phase]
    split <;> rfl
  | _ => simp only [Coordinator.advance, phase, Phase.isIdle]

theorem result?_deed (c : Coordinator ε) (since : List Nat) : (c.deed since).result? = none := by
  unfold Coordinator.deed
  split
  · split <;> rfl
  · rfl
  · rfl

/-- One step answers whoever asks in it. -/
theorem startResults_step (crew : Crew ε) (choice : Choice ε)
    (rest : List (Except SystemError Unit)) :
    startResults (crew.step choice).history ++
        answers (crew.step choice).coordinator.phase.isIdle rest =
      startResults crew.history ++
        answers crew.coordinator.phase.isIdle (choice.spawned?.toList ++ rest) := by
  cases choice with
  | enter script => rfl
  | arrange key => rfl
  | turn number =>
    rw [step]
    split
    · rw [turn, startResults_concat]
      exact congrArg (· ++ _) (List.append_nil _)
    · rfl
  | advance =>
    show startResults crew.advance.history ++ answers crew.advance.coordinator.phase.isIdle rest = _
    rw [advance, isIdle_advance, startResults_concat, result?_deed]
    exact congrArg (· ++ _) (List.append_nil _)
  | start spawned =>
    show startResults (crew.begin spawned).history ++
      answers (crew.begin spawned).coordinator.phase.isIdle rest = _
    unfold begin
    cases phase : crew.coordinator.phase with
    | idle =>
      simp only [Coordinator.start, phase]
      cases spawned with
      | ok done =>
        simp only [startResults_concat]
        exact List.append_assoc _ _ _
      | error e =>
        simp only [startResults_concat, phase]
        exact List.append_assoc _ _ _
    | _ =>
      simp only [Coordinator.start, phase, startResults_concat]
      exact List.append_assoc _ _ _

/-- What those who start the coordinator hear follows from who has done so before. -/
theorem startResults_run (crew : Crew ε) (choices : List (Choice ε)) :
    startResults (crew.run choices).history = startResults crew.history ++
      answers crew.coordinator.phase.isIdle (choices.filterMap Choice.spawned?) := by
  induction choices generalizing crew with
  | nil => exact (List.append_nil _).symm
  | cons choice choices ih =>
    show startResults ((crew.step choice).run choices).history = _
    rw [ih, startResults_step]
    cases choice <;> rfl

/-! ## Finished for good -/

theorem finished_step {crew : Crew ε} (finished : crew.coordinator.finished = true)
    (choice : Choice ε) : (crew.step choice).coordinator.finished = true := by
  cases choice with
  | enter script => exact finished
  | arrange key => exact finished
  | turn number =>
    rw [step]
    split <;> exact finished
  | start spawned =>
    show (crew.begin spawned).coordinator.finished = true
    cases phase : crew.coordinator.phase with
    | idle =>
      simp only [begin, Coordinator.start, phase]
      cases spawned <;> exact finished
    | _ =>
      simp only [begin, Coordinator.start, phase]
      exact finished
  | advance =>
    show crew.coordinator.advance.1.finished = true
    cases phase : crew.coordinator.phase with
    | working thread =>
      simp only [Coordinator.advance, phase]
      split <;> exact finished
    | closing =>
      simp only [Coordinator.advance, phase, finished, if_true]
    | _ =>
      simp only [Coordinator.advance, phase]
      exact finished

theorem finished_run {crew : Crew ε} (finished : crew.coordinator.finished = true)
    (choices : List (Choice ε)) : (crew.run choices).coordinator.finished = true := by
  apply run_induction (P := fun crew => crew.coordinator.finished = true)
  · exact fun _ choice before => finished_step before choice
  · exact finished

/-! ## A coordinator that is left alone -/

theorem run_append (crew : Crew ε) (past more : List (Choice ε)) :
    crew.run (past ++ more) = (crew.run past).run more :=
  List.foldl_append ..

theorem exists_run_of_leads {crew : Crew ε} {after : Coordinator ε}
    (leads : crew.coordinator.Leads after) :
    ∃ count, (crew.run (List.replicate count .advance)).coordinator = after := by
  generalize start_ : crew.coordinator = before at leads
  induction leads using Relation.ReflTransGen.head_induction_on generalizing crew with
  | refl => exact ⟨0, start_⟩
  | head next _ ih =>
    subst start_
    obtain ⟨count, same⟩ := ih (show crew.advance.coordinator = _ from next)
    exact ⟨count + 1, same⟩

/-- Letting time pass tells nobody of the completion twice, and who is finished stays so. -/
theorem told_once_elapse (plan : Plan) (timing : Timing) (choices : List (Choice ε)) (time : Span) :
    let c := ((start plan timing).run choices).coordinator
    let after := (c.elapse time).1
    after.completions ≤ 1 ∧ (0 < after.completions → after.finished = true) ∧
      (c.finished = true → after.finished = true) := by
  intro c after
  rcases c.leads_elapse time with leads | ⟨left, rest, waits, same⟩
  · obtain ⟨count, same⟩ := exists_run_of_leads leads
    rw [← run_append] at same
    have sound := sound_run plan timing (choices ++ List.replicate count .advance)
    have completions := sound.completions
    have finished := sound.finished
    rw [same] at completions finished
    refine ⟨completions ▸ Phase.told_le_one _, ?_, ?_⟩
    · rw [completions, finished]
      exact Phase.isFinished_of_told
    · intro before
      have still := finished_run before (List.replicate count .advance)
      rwa [← run_append, same] at still
  · have sound := sound_run plan timing choices
    have waiting : after = { c with phase := .grace rest } := same
    have completions : after.completions = 0 := by
      rw [waiting]
      exact sound.completions.trans (congrArg Phase.told waits)
    have finished : after.finished = c.finished := by rw [waiting]
    refine ⟨by omega, fun told => ?_, fun before => finished.trans before⟩
    rw [completions] at told
    cases told

end Crew

/-! ## What the completion goes by -/

/-- Whoever counts and was registered before a moment has been registered again by then, or has
ended. -/
def Settled (plan : Plan) (history : List (Happening ε)) (now : Nat) : Prop :=
  ∀ birth id receiver, birth < now → plan.counts id = true →
    history[birth]? = some (.registered id receiver) →
      (∃ later other, birth < later ∧ later < now ∧
        history[later]? = some (.registered id other)) ∨
      ∃ time final, birth < time ∧ time < now ∧ history[time]? = some (.finished id final)

/-- A round that finds the shutdown complete finds that everybody who counts has ended. -/
theorem Fitting.terminal {plan : Plan} {history : List (Happening ε)} {check since : Nat}
    {report : Report} {id : Identity} {status : Status} (fitting : Fitting plan history)
    (there : history[check]? = some (.reported since report)) (complete : report.complete = true)
    (counts : plan.counts id = true)
    (found : (registryAt plan history check).status? id = some status) :
    status.isTerminal = true := by
  have fits : report.complete = (registryAt plan history check).isComplete plan :=
    fitting check _ there
  have nobody := Registry.isComplete_iff_awaited.1 (fits.symm.trans complete)
  by_contra going
  rw [Bool.not_eq_true] at going
  have awaited := Registry.mem_awaited.2 ⟨counts, status, found, going⟩
  rw [nobody] at awaited
  cases awaited

theorem Fitting.settled {plan : Plan} {history : List (Happening ε)} {check since : Nat}
    {report : Report} (fitting : Fitting plan history)
    (there : history[check]? = some (.reported since report)) (complete : report.complete = true) :
    Settled plan history check := by
  intro birth id receiver before counts born
  by_cases again : ∃ later other, birth < later ∧ later < check ∧
      history[later]? = some (.registered id other)
  · exact .inl again
  · right
    have inForce : InForce history birth check id receiver :=
      ⟨born, before, fun later other after sooner there =>
        again ⟨later, other, after, sooner, there⟩⟩
    have past : check ≤ history.length := Nat.le_of_lt (List.getElem?_eq_some_iff.1 there).1
    obtain ⟨status, found, standing⟩ := find?_of_inForce fitting past inForce
    have own : (registryAt plan history check).status? id = some status := by
      rw [Registry.status?, found]
      rfl
    obtain ⟨time, first⟩ := standing.exists_firstEnd (fitting.terminal there complete counts own)
    exact ⟨time, status, first.after, first.before, first.ended⟩

/-- **The completion follows a look that finds everybody done**, whatever others do to the
registry, however often they start the coordinator and whichever rounds they hold.  The first for
whom there is a thread starts it and nobody after that; the completion is told once at most, after
a round of the coordinator's own, not one of a receiver's, has found that everybody who counts has
ended; and the coordinator that has told it is finished and stays so. -/
theorem completion_follows_check (plan : Plan) (timing : Timing)
    (choices : List (Crew.Choice ε)) :
    let crew := (Crew.start plan timing).run choices
    let starts := choices.filterMap Crew.Choice.spawned?
    let told := crew.history.countP Deed.isCompletion
    startResults crew.history = Crew.answers true starts ∧
    (∀ count, starts = List.replicate (count + 1) (.ok ()) →
      startResults crew.history = .ok () :: List.replicate count (.error .alreadyStarted)) ∧
    crew.coordinator.completions = told ∧ told ≤ 1 ∧
    (0 < told → crew.coordinator.finished = true) ∧
    (crew.coordinator.finished = true → ∀ more, (crew.run more).coordinator.finished = true) ∧
    ∀ time, crew.history[time]? = some .completed → ∃ check since report, check < time ∧
      crew.history[check]? = some (.own 1 (.reported since report)) ∧ report.complete = true ∧
      (∀ id status, plan.counts id = true →
        (registryAt plan (happenings crew.history) check).status? id = some status →
          status.isTerminal = true) ∧
      Settled plan (happenings crew.history) check := by
  intro crew starts told
  have sound : crew.Sound plan := Crew.sound_run plan timing choices
  have answered : startResults crew.history = Crew.answers true starts :=
    Crew.startResults_run (.start plan timing) choices
  have once : told = crew.coordinator.phase.told := sound.counted.symm.trans sound.completions
  refine ⟨answered, ?_, sound.counted, ?_, ?_, Crew.finished_run, ?_⟩
  · intro count all
    rw [answered, all, List.replicate_succ, Crew.answers, Crew.answers_false, List.length_replicate]
  · rw [once]
    exact Phase.told_le_one _
  · rw [once, sound.finished]
    exact Phase.isFinished_of_told
  · intro time there
    obtain ⟨report, ⟨check, since, looked⟩, complete⟩ := sound.checked time there
    have before : check < time := by
      have within := (List.getElem?_eq_some_iff.1 looked).1
      rw [List.length_take] at within
      exact Nat.lt_of_lt_of_le within (Nat.min_le_left _ _)
    rw [List.getElem?_take_of_lt before] at looked
    have noted : (happenings crew.history)[check]? = some (.reported since report) := by
      rw [happenings, List.getElem?_map, looked]
      rfl
    refine ⟨check, since, report, before, looked, complete, ?_, sound.fits.settled noted complete⟩
    intro id status counts found
    exact sound.fits.terminal noted complete counts found

/-- A receiver registers, and the coordinator is started and tells it.  The receiver ends its part,
and the coordinator finds the shutdown complete; then another one registers, whom nobody awaits. -/
def farewell : List (Crew.Choice Unit) :=
  [.enter (.register (.fixed .midHandler) (.markReady (.fixed .midHandler) .done) .done), .turn 0,
    .start (.ok ())] ++ List.replicate 6 .advance ++
  [.enter (.register (.fixed .messageController) .done .done), .turn 1, .start (.ok ())] ++
  List.replicate 4 .advance

/-- The coordinator is started once, and before it tells of the completion it has seen the first
receiver end its part. -/
theorem completion_follows_check_farewell :
    let crew := (Crew.start .standard .standard).run farewell
    farewell.filterMap Crew.Choice.spawned? = [.ok (), .ok ()] ∧
      startResults crew.history = [.ok (), .error .alreadyStarted] ∧
      crew.history[13]? = some .completed ∧ crew.coordinator.finished = true ∧
      (∃ check, check < 13 ∧ Settled .standard (happenings crew.history) check) ∧
      crew.coordinator.course.registry.status? (.fixed .midHandler) = some .shutdownCompleted ∧
      crew.coordinator.course.registry.status? (.fixed .messageController) = some .subscribed := by
  intro crew
  obtain ⟨-, starts, -, -, finished, -, looked⟩ :=
    completion_follows_check .standard .standard farewell
  have there : crew.history[13]? = some .completed := rfl
  obtain ⟨check, _, _, before, -, -, -, settled⟩ := looked 13 there
  have told : 0 < crew.history.countP Deed.isCompletion :=
    List.countP_pos_iff.2 ⟨_, List.mem_of_getElem? there, rfl⟩
  exact ⟨rfl, starts 1 rfl, there, finished told, ⟨check, before, settled⟩, rfl, rfl⟩

end Telematics.Shutdown
