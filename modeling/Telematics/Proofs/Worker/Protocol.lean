/-
# Telematics.Proofs.Worker.Protocol -- what the calls and the thread can rely on

Everything that a call or a task is told follows from what has happened before it
(`Event.Answered`).  A request is never taken back, so no sleep is told otherwise
after it; only who took the handle first can wait for the end, so there is one
answer at most that says that all was done.

No request is lost on a sleeper: between the request and the waking the call that
made it is still there to wake, and whoever looks after it does not lie down
(`Sound.pending`, `Sound.woken`).
-/
import Telematics.Proofs.Worker.Steps

namespace Telematics.Worker

set_option autoImplicit false

/-- What somebody is told follows from what has happened before.  To look for the handle in vain is
the answer already: nothing more is said about the end. -/
def Event.Answered (before : List Event) : Event → Prop
  | .did (.sleep _) finding | .did .checkStop finding => finding = .flag (asked before)
  | .did .checkRunning finding => finding = .flag (running before)
  | .did .join finding => finding = .flag false
  | .looked _ answer => answer = running before
  | .claimed _ had => had = (taker? before).isNone
  | .joined number done =>
    taker? before = some (.claimed number true) ∧ .claimed number false ∉ before ∧
      ∃ how, finish? before = some how ∧ done = decide (how = .returned)
  | _ => True

/-! ## What holds of a scene in which this has happened -/

structure Sound (events : List Event) (s : Scene) : Prop where
  asked : s.worker.stopRequested = asked events
  ended : s.worker.ended = finish? events
  /-- While the thread is being started nobody else can get at it. -/
  quiet : s.starting = true → s.calls = [] ∧ taker? events = none
  attached : s.worker.attached = (!s.starting && (taker? events).isNone)
  waiting (number : Nat) : s.calls[number]? = some ⟨.join, .waiting⟩ →
    taker? events = some (.claimed number true)
  joined (number : Nat) (done : Bool) : .joined number done ∈ events →
    taker? events = some (.claimed number true)
  returned (event : Event) (number : Nat) (demand : Demand) : event ∈ events →
    event.moves? = some (number, ⟨demand, .returned⟩) →
    s.calls[number]? = some ⟨demand, .returned⟩
  /-- Whoever is told that all was done has waited for it. -/
  answered (event : Event) : event ∈ events → event.joinAnswer? = some true →
    ∃ number, event = .joined number true
  single : events.countP (·.joinAnswer? = some true) ≤ 1
  waking (number : Nat) : s.calls[number]? = some ⟨.stop, .waking⟩ → Worker.asked events = true
  /-- Once a stop has returned, nobody sleeps. -/
  woken : events.any Event.stops = true → Worker.asked events = true ∧ s.rest ≠ .asleep
  /-- Whoever sleeps although the stop is requested is about to be woken. -/
  pending : s.rest = .asleep → Worker.asked events = true →
    ∃ number : Nat, s.calls[number]? = some ⟨.stop, .waking⟩

theorem sound_start (name : String) (tasks : List Task) (held : Bool) :
    Sound [] (Scene.start name tasks held) where
  asked := rfl
  ended := rfl
  quiet _ := ⟨rfl, rfl⟩
  attached := rfl
  waiting _ := nofun
  joined _ _ := nofun
  returned _ _ _ := nofun
  answered _ := nofun
  single := Nat.zero_le 1
  waking _ := nofun
  woken := nofun
  pending := nofun

namespace Sound

variable {events : List Event} {event : Event} {s s' : Scene}

/-- While the thread is being started the handle is not taken. -/
theorem takes_step (sound : Sound events s) (step : Step s event s') (takes : event.takes = true) :
    s.starting = false := by
  cases starting : s.starting with
  | false => rfl
  | true =>
    have none := (sound.quiet starting).1
    cases step with
    | detached found | claimed found =>
      rw [none] at found
      cases found
    | did next awake free stepped found =>
      rename_i task tasks job finding
      cases task with
      | detach | join => exact starting.symm.trans (free rfl)
      | _ => cases takes
    | _ => cases takes

theorem quiet_step (sound : Sound events s) (step : Step s event s') (starting : s'.starting = true) :
    s'.calls = [] ∧ taker? (events ++ [event]) = none := by
  have before : s.starting = true := by
    rw [starting_step step, Bool.and_eq_true] at starting
    exact starting.1
  obtain ⟨none, untaken⟩ := sound.quiet before
  constructor
  · cases step with
    | called open_ => cases open_.symm.trans before
    | requested found | stopped found | detached found | claimed found | joined found ending
    | looked found =>
      rw [none] at found
      cases found
    | _ => exact none
  · have keeps : event.takes = false :=
      Bool.eq_false_iff.2 fun takes => nomatch before.symm.trans (sound.takes_step step takes)
    simp [untaken, keeps]

theorem attached_snoc (sound : Sound events s) (step : Step s event s') :
    s'.worker.attached = (!s'.starting && (taker? (events ++ [event])).isNone) := by
  by_cases opened : event = .opened
  · subst opened
    cases step with
    | opened kept => simp [Scene.opened, Scene.worker, Scene.withWorker, (sound.quiet kept).2, Event.takes]
  · have unopened : (event == .opened) = false := beq_eq_false_iff_ne.2 opened
    rw [attached_step step, starting_step step, sound.attached, taker?_snoc]
    cases event.takes <;> cases taker? events <;> simp [bne, unopened]

/-- Whoever waits for the end was the first to take the handle. -/
theorem waiting_snoc (sound : Sound events s) (step : Step s event s') (number : Nat)
    (waits : s'.calls[number]? = some ⟨.join, .waiting⟩) :
    taker? (events ++ [event]) = some (.claimed number true) := by
  rw [taker?_snoc]
  rcases call_step step waits with waited | begun | moves
  · simp [sound.waiting number waited]
  · cases begun
  · cases step with
    | claimed found =>
      -- Only the handle itself makes a call wait, and while it is there nobody has taken it.
      cases had : s.worker.claim.1 with
      | false => simp [Event.moves?, had] at moves
      | true =>
        have there : s.worker.attached = true := had
        rw [sound.attached, Bool.and_eq_true, Option.isNone_iff_eq_none] at there
        obtain ⟨rfl, -⟩ : _ = number ∧ _ := by simpa [Event.moves?] using moves
        simp [there.2, Event.takes]
    | _ => cases moves

theorem joined_snoc (sound : Sound events s) (step : Step s event s') (number : Nat) (done : Bool)
    (joined : .joined number done ∈ events ++ [event]) :
    taker? (events ++ [event]) = some (.claimed number true) := by
  have taker : taker? events = some (.claimed number true) := by
    rcases List.mem_append.1 joined with before | now
    · exact sound.joined number done before
    · cases List.mem_singleton.1 now
      cases step with
      | joined found ending => exact sound.waiting number found
  rw [taker?_snoc, taker, Option.some_or]

theorem returned_snoc (sound : Sound events s) (step : Step s event s') (other : Event) (number : Nat)
    (demand : Demand) (there : other ∈ events ++ [event])
    (moves : other.moves? = some (number, ⟨demand, .returned⟩)) :
    s'.calls[number]? = some ⟨demand, .returned⟩ := by
  rcases List.mem_append.1 there with before | now
  · exact call_returned step (sound.returned other number demand before moves)
  · obtain rfl := List.mem_singleton.1 now
    exact call_moved step moves

/-- As long as somebody waits for the end, nobody has been told about it. -/
theorem unanswered (sound : Sound events s) {number : Nat}
    (waits : s.calls[number]? = some ⟨.join, .waiting⟩) (other : Nat) (done : Bool) :
    .joined other done ∉ events := by
  intro joined
  cases (sound.joined other done joined).symm.trans (sound.waiting number waits)
  cases (sound.returned _ number .join joined rfl).symm.trans waits

/-- Whoever waits for the end has not looked for the handle in vain. -/
theorem not_in_vain (sound : Sound events s) {number : Nat}
    (waits : s.calls[number]? = some ⟨.join, .waiting⟩) : .claimed number false ∉ events := by
  intro vain
  cases (sound.returned _ number .join vain rfl).symm.trans waits

theorem answered_snoc (sound : Sound events s) (step : Step s event s') (other : Event)
    (there : other ∈ events ++ [event]) (all : other.joinAnswer? = some true) :
    ∃ number, other = .joined number true := by
  rcases List.mem_append.1 there with before | now
  · exact sound.answered other before all
  · obtain rfl := List.mem_singleton.1 now
    cases other with
    | joined number done =>
      cases all
      exact ⟨number, rfl⟩
    | claimed number had => cases had <;> cases all
    | did task finding =>
      -- A thread that waits for its own end is told that it was not the end.
      cases task with
      | join =>
        cases finding_step step
        cases all
      | _ => cases all
    | _ => cases all

theorem single_snoc (sound : Sound events s) (step : Step s event s') :
    (events ++ [event]).countP (·.joinAnswer? = some true) ≤ 1 := by
  rw [List.countP_append, List.countP_singleton]
  split
  · rename_i all
    obtain ⟨number, rfl⟩ := sound.answered_snoc step event (by simp) (by simpa using all)
    have none : events.countP (·.joinAnswer? = some true) = 0 := by
      rw [List.countP_eq_zero]
      intro other there joined
      obtain ⟨first, rfl⟩ := sound.answered other there (by simpa using joined)
      cases step with
      | joined found ending => exact sound.unanswered found first true there
    exact Nat.le_of_eq (congrArg (· + 1) none)
  · exact sound.single

theorem waking_snoc (sound : Sound events s) (step : Step s event s') (number : Nat)
    (wakes : s'.calls[number]? = some ⟨.stop, .waking⟩) :
    Worker.asked (events ++ [event]) = true := by
  rw [asked_snoc, Bool.or_eq_true]
  rcases call_step step wakes with before | begun | moves
  · exact .inl (sound.waking number before)
  · cases begun
  · cases step with
    | requested found => exact .inr rfl
    | claimed found => cases (Prod.mk.inj (Option.some.inj moves)).2
    | _ => cases moves

theorem woken_snoc (sound : Sound events s) (step : Step s event s')
    (stopped : (events ++ [event]).any Event.stops = true) :
    Worker.asked (events ++ [event]) = true ∧ s'.rest ≠ .asleep := by
  rw [List.any_append, Bool.or_eq_true] at stopped
  have asked : Worker.asked (events ++ [event]) = true := by
    rw [asked_snoc, Bool.or_eq_true]
    rcases stopped with before | now
    · exact .inl (sound.woken before).1
    · cases step with
      | stopped found => exact .inl (sound.waking _ found)
      | did =>
        rename_i task tasks job finding next awake free stepped found
        cases task with
        | stop => exact .inr rfl
        | _ => cases now
      | _ => cases now
  refine ⟨asked, fun asleep => ?_⟩
  rcases asleep_step step asleep with ⟨rfl, unasked⟩ | ⟨slept, unstirred⟩
  · rw [asked_snoc, ← sound.asked, unasked] at asked
    cases asked
  · rcases stopped with before | now
    · exact (sound.woken before).2 slept
    · simp [unstirred] at now

/-- A sleeper for whom a stop is requested lay down before, so it was awaited already or is from now on. -/
theorem pending_snoc (sound : Sound events s) (step : Step s event s') (asleep : s'.rest = .asleep)
    (asked : Worker.asked (events ++ [event]) = true) :
    ∃ number : Nat, s'.calls[number]? = some ⟨.stop, .waking⟩ := by
  rw [asked_snoc, Bool.or_eq_true] at asked
  rcases asleep_step step asleep with ⟨rfl, unasked⟩ | ⟨slept, unstirred⟩
  · rw [← sound.asked, unasked] at asked
    rcases asked with before | now
    · cases before
    · cases now
  · rcases asked with before | now
    · obtain ⟨number, wakes⟩ := sound.pending slept before
      refine ⟨number, call_kept step wakes fun later moves => ?_⟩
      cases step with
      | requested found | detached found | claimed found | joined found ending | looked found =>
        cases moves
        cases found.symm.trans wakes
      | stopped found => cases unstirred
      | _ => cases moves
    · cases step with
      | requested found => exact ⟨_, call_moved (.requested found) rfl⟩
      | did next awake => exact absurd slept awake
      | _ => cases now

/-- One step keeps all this. -/
theorem snoc (sound : Sound events s) (step : Step s event s') : Sound (events ++ [event]) s' where
  asked := by rw [stopRequested_step step, asked_snoc, sound.asked]
  ended := by rw [ended_step step, finish?_snoc, sound.ended]
  quiet := sound.quiet_step step
  attached := sound.attached_snoc step
  waiting := sound.waiting_snoc step
  joined := sound.joined_snoc step
  returned := sound.returned_snoc step
  answered := sound.answered_snoc step
  single := sound.single_snoc step
  waking := sound.waking_snoc step
  woken := sound.woken_snoc step
  pending := sound.pending_snoc step

theorem isRunning_eq (sound : Sound events s) (opened : s.starting = false) :
    s.worker.isRunning = running events := by
  rw [isRunning, sound.attached, sound.ended, opened]
  rfl

theorem answered_step (sound : Sound events s) (step : Step s event s') : event.Answered events := by
  cases step with
  | claimed found =>
    have opened : s.starting = false := sound.takes_step (.claimed found) rfl
    change s.worker.attached = _
    rw [sound.attached, opened]
    rfl
  | looked found =>
    refine sound.isRunning_eq (Bool.eq_false_iff.2 fun starting => ?_)
    rw [(sound.quiet starting).1] at found
    cases found
  | joined found ending =>
    obtain ⟨how, ended, same⟩ := Option.map_eq_some_iff.1 ending
    exact ⟨sound.waiting _ found, sound.not_in_vain found, how, sound.ended.symm.trans ended, same.symm⟩
  | did next awake free stepped found =>
    rename_i task tasks job finding
    have finds := finding_step (.did next awake free stepped found)
    cases task with
    | sleep | checkStop => exact finds.trans (congrArg Finding.flag sound.asked)
    | checkRunning => exact finds.trans (congrArg Finding.flag (sound.isRunning_eq (free rfl)))
    | join => exact finds
    | _ => trivial
  | _ => trivial

/-- With a stop requested the thread does not lie down. -/
theorem not_lay (sound : Sound events s) (asked : Worker.asked events = true) :
    ¬ Step s .lay s' := by
  intro step
  cases step with
  | lay sleeps awake runs waits => simp [wake?, sound.asked, asked] at waits

/-- Whoever sleeps although the stop is requested can be woken. -/
theorem wakes (sound : Sound events s) (asked : Worker.asked events = true) (asleep : s.rest = .asleep) :
    ∃ number s', Step s (.stopped number) s' ∧ s'.rest = .up := by
  obtain ⟨number, found⟩ := sound.pending asleep asked
  exact ⟨number, _, .stopped found, by simp [asleep]⟩

/-- With a stop requested a sleep is over as soon as the thread is awake. -/
theorem sleep_over (sound : Sound events s) (asked : Worker.asked events = true) {time : Span}
    {tasks : List Task} (next : s.job.tasks = .sleep time :: tasks) (free : s.job.held = false)
    (going : s.worker.ended = none) (awake : s.rest ≠ .asleep) :
    ∃ s', Step s (.did (.sleep time) (.flag true)) s' := by
  have requested : s.job.worker.stopRequested = true := sound.asked.trans asked
  have stepped : s.job.step? (s.rest = .late) =
      some { s.job with tasks, findings := s.job.findings ++ [.flag true] } := by
    have unended : s.job.worker.ended = none := going
    simp [Job.step?, free, unended, next, Job.perform, wake?, requested]
  refine ⟨_, .did next awake (fun needs => ?_) stepped rfl⟩
  cases needs

end Sound

section Run

variable {name : String} {tasks : List Task} {held : Bool} {events : List Event} {s : Scene}

theorem sound_of_run (run : Run (Scene.start name tasks held) events s) : Sound events s := by
  induction run with
  | none => exact sound_start name tasks held
  | more before step sound => exact sound.snoc step

/-- Whatever happens in a run is a step from where the run has come before. -/
theorem Run.split {first : Scene} {before after : List Event} {event : Event}
    (run : Run first (before ++ event :: after) s) :
    ∃ earlier later, Run first before earlier ∧ Step earlier event later := by
  generalize all : before ++ event :: after = events at run
  -- What has happened last is either this event, or it comes after it and is left out.
  induction run generalizing after with
  | none => simp at all
  | more ran step ih =>
    rcases List.eq_nil_or_concat after with rfl | ⟨after, last, rfl⟩
    · obtain ⟨rfl, same⟩ := List.append_inj' all rfl
      cases same
      exact ⟨_, _, ran, step⟩
    · rw [List.concat_eq_append, ← List.cons_append, ← List.append_assoc] at all
      exact ih (List.append_inj' all rfl).1

/-- However the calls and the thread take turns, everybody is told what follows from what has happened
before, and one at most is told to have seen the thread return.  A request to stop stays; after it the
thread does not lie down, a sleeper is about to be woken, and a sleep is over as soon as the thread is
awake.  Once somebody has come back from stopping it, the thread is not asleep. -/
theorem no_stop_lost_no_handle_twice (run : Run (Scene.start name tasks held) events s) :
    (∀ before event after, events = before ++ event :: after → event.Answered before) ∧
    events.countP (·.joinAnswer? = some true) ≤ 1 ∧
    s.worker.stopRequested = asked events ∧
    (asked events = true →
      (∀ s', ¬ Step s .lay s') ∧
      (s.rest = .asleep → ∃ number s', Step s (.stopped number) s' ∧ s'.rest = .up) ∧
      ∀ time later, s.job.tasks = .sleep time :: later → s.job.held = false →
        s.worker.ended = none → s.rest ≠ .asleep →
        ∃ s', Step s (.did (.sleep time) (.flag true)) s') ∧
    (events.any Event.stops = true → asked events = true ∧ s.rest ≠ .asleep) := by
  have sound := sound_of_run run
  refine ⟨?_, sound.single, sound.asked, fun asked => ⟨?_, ?_, ?_⟩, sound.woken⟩
  · rintro before event after rfl
    obtain ⟨earlier, later, ran, step⟩ := run.split
    exact (sound_of_run ran).answered_step step
  · exact fun s' => sound.not_lay asked
  · exact sound.wakes asked
  · exact fun time later next free going awake => sound.sleep_over asked next free going awake

/-- A sleeper is stopped from outside, and one of two who want to wait for its end can do so. -/
def sleeperStopped : List Event :=
  [.opened, .called .stop, .called .join, .called .join, .lay, .requested 0, .stopped 0,
    .claimed 2 true, .claimed 1 false, .did (.sleep (.ofMilliseconds 30000)) (.flag true),
    .exited, .joined 2 true]

theorem no_stop_lost_no_handle_twice_sleeper :
    ∃ s, Run (Scene.start "sleeper" [.sleep (.ofMilliseconds 30000)] false) sleeperStopped s ∧
      (∀ before event after, sleeperStopped = before ++ event :: after → event.Answered before) ∧
      sleeperStopped.countP (·.joinAnswer? = some true) ≤ 1 ∧
      s.worker.stopRequested = true ∧ s.worker.ended = some .returned ∧ s.rest ≠ .asleep := by
  have opened : Run (Scene.start "sleeper" [.sleep (.ofMilliseconds 30000)] false) [.opened] _ :=
    .more .none (.opened rfl)
  have called := ((opened.more (.called rfl .stop)).more (.called rfl .join)).more (.called rfl .join)
  have slept := called.more (.lay rfl rfl ⟨rfl, rfl⟩ rfl)
  have stopped := (slept.more (@Step.requested _ 0 rfl)).more (@Step.stopped _ 0 rfl)
  have claimed := (stopped.more (@Step.claimed _ 2 rfl)).more (@Step.claimed _ 1 rfl)
  have woken := claimed.more (.did rfl nofun nofun rfl rfl)
  have exited := woken.more (.exited rfl nofun rfl)
  have joined : Run _ sleeperStopped _ := exited.more (@Step.joined _ 2 true rfl rfl)
  obtain ⟨answered, single, requested, -, woken⟩ := no_stop_lost_no_handle_twice joined
  exact ⟨_, joined, answered, single, requested, rfl, (woken rfl).2⟩

end Run

end Telematics.Worker
