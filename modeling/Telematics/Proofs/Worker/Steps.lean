/-
# Telematics.Proofs.Worker.Steps -- what a step does to what is shared

What has happened is read in four ways: whether somebody has requested the stop
(`asked`), who was the first to take the handle (`taker?`), how the thread has
ended (`finish?`), and what somebody who wants to wait for the end is told
(`Event.joinAnswer?`).  For each part of the scene one lemma says what any step
makes of it.  A call comes further by its own steps only, and not at all once it
has returned (`call_kept`, `call_returned`).
-/
import Telematics.Proofs.Worker.Scene

namespace Telematics.Worker

set_option autoImplicit false

/-! ## What has happened -/

namespace Event

/-- From here on a stop is requested. -/
def requests : Event → Bool
  | .requested _ | .did .stop _ => true
  | _ => false

/-- Somebody has stopped the thread and goes on. -/
def stops : Event → Bool
  | .stopped _ | .did .stop _ => true
  | _ => false

/-- The handle is no longer in its place. -/
def takes : Event → Bool
  | .detached _ | .claimed _ _ | .did .detach _ | .did .join _ => true
  | _ => false

/-- How the thread comes to its end. -/
def end? : Event → Option End
  | .exited => some .returned
  | .did .fail _ => some .failed
  | _ => none

/-- What somebody who wants to wait for the end is told. -/
def joinAnswer? : Event → Option Bool
  | .claimed _ false => some false
  | .joined _ done => some done
  | .did .join (.flag done) => some done
  | _ => none

end Event

/-- Whether somebody has requested the stop. -/
def asked (events : List Event) : Bool := events.any Event.requests

/-- The first to take the handle. -/
def taker? (events : List Event) : Option Event := events.find? Event.takes

/-- How the thread has ended. -/
def finish? (events : List Event) : Option End := events.findSome? Event.end?

/-- Whether the handle is in its place and the thread has not ended. -/
def running (events : List Event) : Bool := (taker? events).isNone && (finish? events).isNone

section Lists

variable (events : List Event) (event : Event)

@[simp] theorem asked_snoc : asked (events ++ [event]) = (asked events || event.requests) := by
  simp [asked]

@[simp] theorem taker?_snoc :
    taker? (events ++ [event]) = (taker? events).or (if event.takes then some event else none) := by
  simp only [taker?, List.find?_append, List.find?_singleton]

@[simp] theorem finish?_snoc : finish? (events ++ [event]) = (finish? events).or event.end? := by
  simp only [finish?, List.findSome?_append, List.findSome?_cons, List.findSome?_nil]
  cases event.end? <;> rfl

end Lists

/-! ## What a step does to what is shared -/

section Step

variable {s s' : Scene} {event : Event}

theorem stopRequested_step (step : Step s event s') :
    s'.worker.stopRequested = (s.worker.stopRequested || event.requests) := by
  rw [worker_step step]
  cases event with
  | did task finding => cases task <;> simp [Event.after, Task.after, Event.requests, stop, detach, exit]
  | _ => simp [Event.after, Event.requests, stop, detach, exit]

theorem starting_step (step : Step s event s') :
    s'.starting = (s.starting && event != .opened) := by
  cases step <;> simp [Scene.opened, Scene.withWorker, Scene.withCall]

theorem attached_step (step : Step s event s') :
    s'.worker.attached = (event == .opened || s.worker.attached && !event.takes) := by
  rw [worker_step step]
  cases event with
  | did task finding => cases task <;> simp [Event.after, Task.after, Event.takes, stop, detach, exit]
  | _ => simp [Event.after, Event.takes, stop, detach, exit]

/-- A thread that ends has not ended before. -/
theorem ended_step (step : Step s event s') :
    s'.worker.ended = s.worker.ended.or event.end? := by
  have going (ends : event.end?.isSome = true) : s.worker.ended = none := by
    cases step with
    | did next awake free stepped found => exact (Job.runs_of_step? stepped).2
    | exited last awake stepped => exact (Job.runs_of_step? stepped).2
    | _ => cases ends
  have same : s'.worker.ended = event.end?.or s.worker.ended := by
    rw [worker_step step]
    cases event with
    | did task finding => cases task <;> rfl
    | _ => rfl
  cases ends : event.end? with
  | none => simpa [ends] using same
  | some how => simpa [ends, going (by simp [ends])] using same

/-- Whoever lies asleep has just lain down with no stop requested, or has not been stirred. -/
theorem asleep_step (step : Step s event s') (asleep : s'.rest = .asleep) :
    event = .lay ∧ s.worker.stopRequested = false ∨
      s.rest = .asleep ∧ event.stops = false := by
  cases step with
  | lay sleeps awake runs waits =>
    refine .inl ⟨rfl, ?_⟩
    unfold wake? at waits
    split at waits
    · cases waits
    · rename_i unasked
      simpa using unasked
  | stopped found =>
    simp only at asleep
    split at asleep
    · cases asleep
    · rename_i awake
      exact absurd asleep awake
  | timeUp | did | exited => cases asleep
  | _ => exact .inr ⟨asleep, rfl⟩

/-! ### The calls -/

/-- The call that something is a step of, and how far it comes. -/
def Event.moves? : Event → Option (Nat × Call)
  | .requested number => some (number, ⟨.stop, .waking⟩)
  | .stopped number => some (number, ⟨.stop, .returned⟩)
  | .detached number => some (number, ⟨.detach, .returned⟩)
  | .claimed number had => some (number, ⟨.join, if had then .waiting else .returned⟩)
  | .joined number _ => some (number, ⟨.join, .returned⟩)
  | .looked number _ => some (number, ⟨.look, .returned⟩)
  | _ => none

/-- The call that begins when something happens. -/
def Event.begins : Event → List Call
  | .called demand => [⟨demand, .begun⟩]
  | _ => []

/-- The calls there were, one of which has come further. -/
def Event.moved (calls : List Call) (event : Event) : List Call :=
  match event.moves? with
  | some (number, call) => calls.set number call
  | none => calls

@[simp] theorem Event.length_moved (calls : List Call) (event : Event) :
    (event.moved calls).length = calls.length := by
  unfold Event.moved
  split <;> simp

theorem calls_step (step : Step s event s') : s'.calls = event.moved s.calls ++ event.begins := by
  cases step with
  | called => rfl
  | _ => exact (List.append_nil _).symm

/-- Whoever makes a step has not returned. -/
theorem moves?_step {number : Nat} {call : Call} (step : Step s event s')
    (moves : event.moves? = some (number, call)) :
    ∃ progress, s.calls[number]? = some ⟨call.demand, progress⟩ ∧
      progress ≠ .returned ∧ progress ≠ call.progress := by
  cases step with
  | claimed found =>
    cases moves
    refine ⟨.begun, found, nofun, ?_⟩
    dsimp only
    split <;> exact nofun
  | requested found | stopped found | detached found | joined found ending | looked found =>
    cases moves
    exact ⟨_, found, nofun, nofun⟩
  | _ => cases moves

/-- A call is where it was, has just begun, or has made this step. -/
theorem call_step {number : Nat} {call : Call} (step : Step s event s')
    (now : s'.calls[number]? = some call) :
    s.calls[number]? = some call ∨ call.progress = .begun ∨ event.moves? = some (number, call) := by
  rw [calls_step step, List.getElem?_append] at now
  split at now
  · unfold Event.moved at now
    split at now
    · rename_i moved later moves
      rw [List.getElem?_set] at now
      split at now
      · rename_i same
        split at now
        · cases same
          cases now
          exact .inr (.inr moves)
        · cases now
      · exact .inl now
    · exact .inl now
  · have begun : call ∈ event.begins := List.mem_of_getElem? now
    cases event with
    | called demand =>
      cases List.mem_singleton.1 begun
      exact .inr (.inl rfl)
    | _ => cases begun

/-- A call that does not make this step stays where it is. -/
theorem call_kept {number : Nat} {call : Call} (step : Step s event s')
    (found : s.calls[number]? = some call)
    (still : ∀ later, event.moves? ≠ some (number, later)) : s'.calls[number]? = some call := by
  obtain ⟨inside, -⟩ := List.getElem?_eq_some_iff.1 found
  rw [calls_step step, List.getElem?_append_left (by simpa using inside), Event.moved]
  split
  · rename_i moved later moves
    rw [List.getElem?_set_ne, found]
    rintro rfl
    exact still _ moves
  · exact found

/-- Whoever makes a step is where the step leads. -/
theorem call_moved {number : Nat} {call : Call} (step : Step s event s')
    (moves : event.moves? = some (number, call)) : s'.calls[number]? = some call := by
  obtain ⟨progress, found, -⟩ := moves?_step step moves
  obtain ⟨inside, -⟩ := List.getElem?_eq_some_iff.1 found
  rw [calls_step step, List.getElem?_append_left (by simpa using inside), Event.moved, moves]
  exact List.getElem?_set_self inside

/-- A call that has returned takes no further step. -/
theorem call_returned {number : Nat} {demand : Demand} (step : Step s event s')
    (found : s.calls[number]? = some ⟨demand, .returned⟩) :
    s'.calls[number]? = some ⟨demand, .returned⟩ := by
  refine call_kept step found fun later moves => ?_
  obtain ⟨progress, there, unreturned, -⟩ := moves?_step step moves
  cases found.symm.trans there
  exact unreturned rfl

end Step

end Telematics.Worker
