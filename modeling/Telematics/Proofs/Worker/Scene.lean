/-
# Telematics.Proofs.Worker.Scene -- a thread and those who have to do with it

Whoever starts a thread keeps the place of its handle to themselves until the
handle is there; only then can anybody else get at it, from outside or from within.
Then any number of calls come from outside at any time, and the thread does its
job meanwhile.  Each step touches one thing that is shared: the request to stop,
the handle, or those who wait to be woken.  So a stop takes two steps, the request
and the waking, and so does waiting for the end; a sleeper that has been woken, or
whose time is over, has yet to look at the request again.

A sleep is taken to end at a time that the clock can show.

What a step does to the worker is decided by what has happened in it
(`worker_step`), so whatever is known of a run can be read off its events.
-/
import Telematics.Worker.Job

namespace Telematics.Worker

set_option autoImplicit false

/-- What somebody outside calls for. -/
inductive Demand where
  | stop
  | detach
  /-- Waits for the end. -/
  | join
  | look
  deriving DecidableEq

/-- How far a call has come. -/
inductive Progress where
  | begun
  /-- The stop has been requested, and nobody has been woken. -/
  | waking
  /-- The handle has been taken in order to wait for the end. -/
  | waiting
  | returned
  deriving DecidableEq

/-- A call from outside. -/
structure Call where
  demand : Demand
  progress : Progress
  deriving DecidableEq

/-- Whether the thread has lain down in its sleep. -/
inductive Rest where
  /-- It has not, or it has been woken. -/
  | up
  /-- It waits to be woken. -/
  | asleep
  /-- It has not been woken, but its time is over. -/
  | late
  deriving DecidableEq

/-- A thread and those who have to do with it. -/
structure Scene where
  job : Job
  /-- Whether the place of the handle is kept by whoever starts the thread. -/
  starting : Bool
  rest : Rest
  calls : List Call

/-- What happens in a step. -/
inductive Event where
  /-- The handle is put into its place. -/
  | opened
  | released
  | permitted
  | called (demand : Demand)
  /-- A call requests the stop. -/
  | requested (number : Nat)
  /-- A call wakes the thread, and has stopped it. -/
  | stopped (number : Nat)
  | detached (number : Nat)
  /-- A call looks for the handle to wait for the end; without it there is nothing to wait for. -/
  | claimed (number : Nat) (had : Bool)
  /-- A call has waited for the end. -/
  | joined (number : Nat) (done : Bool)
  | looked (number : Nat) (running : Bool)
  /-- The thread lies down. -/
  | lay
  | timeUp
  | did (task : Task) (finding : Finding)
  /-- The thread comes to its end with nothing left to do. -/
  | exited
  deriving DecidableEq

/-- A task needs the place of the handle. -/
def Task.needsHandle : Task → Bool
  | .detach | .join | .checkRunning => true
  | _ => false

namespace Scene

/-- A thread that is being started: the place of its handle is empty. -/
def start (name : String) (tasks : List Task) (held : Bool) : Scene where
  job := { Job.start name tasks held with worker := (Worker.start name).detach }
  starting := true
  rest := .up
  calls := []

def worker (s : Scene) : Worker := s.job.worker

def withWorker (s : Scene) (worker : Worker) : Scene := { s with job := { s.job with worker } }

def withCall (s : Scene) (number : Nat) (call : Call) : Scene :=
  { s with calls := s.calls.set number call }

/-- The scene when the handle has been put into its place. -/
def opened (s : Scene) : Scene :=
  { s.withWorker { s.worker with attached := true } with starting := false }

/-- When nothing has happened meanwhile, the thread has been started. -/
theorem job_opened_start (name : String) (tasks : List Task) (held : Bool) :
    (start name tasks held).opened.job = .start name tasks held := rfl

end Scene

/-- One step of somebody. -/
inductive Step : Scene → Event → Scene → Prop where
  | opened {s : Scene} (kept : s.starting = true) : Step s .opened s.opened
  | released (s : Scene) : Step s .released { s with job := s.job.release }
  | permitted (s : Scene) : Step s .permitted { s with job := s.job.permit }
  | called {s : Scene} (open_ : s.starting = false) (demand : Demand) :
      Step s (.called demand) { s with calls := s.calls ++ [⟨demand, .begun⟩] }
  | requested {s : Scene} {number : Nat} (found : s.calls[number]? = some ⟨.stop, .begun⟩) :
      Step s (.requested number) ((s.withWorker s.worker.stop).withCall number ⟨.stop, .waking⟩)
  | stopped {s : Scene} {number : Nat} (found : s.calls[number]? = some ⟨.stop, .waking⟩) :
      Step s (.stopped number)
        { s.withCall number ⟨.stop, .returned⟩ with
          rest := if s.rest = .asleep then .up else s.rest }
  | detached {s : Scene} {number : Nat} (found : s.calls[number]? = some ⟨.detach, .begun⟩) :
      Step s (.detached number)
        ((s.withWorker s.worker.detach).withCall number ⟨.detach, .returned⟩)
  | claimed {s : Scene} {number : Nat} (found : s.calls[number]? = some ⟨.join, .begun⟩) :
      Step s (.claimed number s.worker.claim.1)
        ((s.withWorker s.worker.claim.2).withCall number
          ⟨.join, if s.worker.claim.1 then .waiting else .returned⟩)
  | joined {s : Scene} {number : Nat} {done : Bool}
      (found : s.calls[number]? = some ⟨.join, .waiting⟩) (ending : s.worker.joined? = some done) :
      Step s (.joined number done) (s.withCall number ⟨.join, .returned⟩)
  | looked {s : Scene} {number : Nat} (found : s.calls[number]? = some ⟨.look, .begun⟩) :
      Step s (.looked number s.worker.isRunning) (s.withCall number ⟨.look, .returned⟩)
  /-- The thread has looked at the request and goes on waiting. -/
  | lay {s : Scene} {time : Span} {tasks : List Task} (sleeps : s.job.tasks = .sleep time :: tasks)
      (awake : s.rest = .up) (runs : s.job.held = false ∧ s.worker.ended = none)
      (waits : s.worker.wake? false = none) : Step s .lay { s with rest := .asleep }
  | timeUp {s : Scene} (asleep : s.rest = .asleep) : Step s .timeUp { s with rest := .late }
  | did {s : Scene} {task : Task} {tasks : List Task} {job : Job} {finding : Finding}
      (next : s.job.tasks = task :: tasks) (awake : s.rest ≠ .asleep)
      (free : task.needsHandle = true → s.starting = false)
      (stepped : s.job.step? (s.rest = .late) = some job)
      (found : job.findings = s.job.findings ++ [finding]) :
      Step s (.did task finding) { s with job, rest := .up }
  | exited {s : Scene} {job : Job} (last : s.job.tasks = []) (awake : s.rest ≠ .asleep)
      (stepped : s.job.step? (s.rest = .late) = some job) :
      Step s .exited { s with job, rest := .up }

/-- Some steps, one after the other, and what has happened in them. -/
inductive Run (first : Scene) : List Event → Scene → Prop where
  | none : Run first [] first
  | more {events : List Event} {event : Event} {s s' : Scene} (before : Run first events s)
      (step : Step s event s') : Run first (events ++ [event]) s'

/-! ## What a task does -/

/-- The worker when a task has been performed. -/
def Task.after (w : Worker) : Task → Worker
  | .detach | .join => w.detach
  | .stop => w.stop
  | .fail => w.exit .failed
  | _ => w

/-- What a task finds when it has been performed. -/
def Task.finds (w : Worker) : Task → Finding
  | .sleep _ | .checkStop => .flag w.stopRequested
  | .tellName => .names w.name w.name
  | .detach | .stop => .nothing
  | .join => .flag false
  | .checkRunning => .flag w.isRunning
  | .pass => .flag true
  | .fail => .failure

namespace Job

variable {job job' : Job} {timeUp : Bool}

theorem runs_of_step? (stepped : job.step? timeUp = some job') :
    job.held = false ∧ job.worker.ended = none := by
  unfold step? at stepped
  split at stepped
  · cases stepped
  · rename_i runs
    simpa using runs

theorem perform_eq {task : Task} {finding : Finding}
    (performed : job.perform timeUp task = some (finding, job')) :
    finding = task.finds job.worker ∧ job'.worker = task.after job.worker ∧
      job'.findings = job.findings := by
  cases task with
  | sleep time =>
    obtain ⟨b, woken, same⟩ := Option.map_eq_some_iff.1 performed
    cases same
    refine ⟨?_, rfl, rfl⟩
    unfold wake? at woken
    split at woken
    · cases woken
      rfl
    · cases woken
  | pass =>
    rw [perform] at performed
    split at performed
    · cases performed
    · cases performed
      exact ⟨rfl, rfl, rfl⟩
  | checkStop | tellName | detach | join | checkRunning | stop | fail =>
    cases performed
    exact ⟨rfl, rfl, rfl⟩

/-- A step of a job that has something to do. -/
theorem step?_of_task {task : Task} {tasks : List Task} (next : job.tasks = task :: tasks)
    (stepped : job.step? timeUp = some job') :
    job'.worker = task.after job.worker ∧
      job'.findings = job.findings ++ [task.finds job.worker] := by
  unfold step? at stepped
  split at stepped
  · cases stepped
  · rw [next] at stepped
    obtain ⟨⟨finding, later⟩, performed, same⟩ := Option.map_eq_some_iff.1 stepped
    cases same
    obtain ⟨rfl, worker, findings⟩ := perform_eq performed
    exact ⟨worker, congrArg (· ++ _) findings⟩

/-- The last step of a job. -/
theorem step?_of_nothing (last : job.tasks = []) (stepped : job.step? timeUp = some job') :
    job'.worker = job.worker.exit .returned := by
  unfold step? at stepped
  split at stepped
  · cases stepped
  · rw [last] at stepped
    cases stepped
    rfl

end Job

/-! ## What a step does to the worker -/

/-- The worker after something has happened. -/
def Event.after (w : Worker) : Event → Worker
  | .opened => { w with attached := true }
  | .requested _ => w.stop
  | .detached _ | .claimed _ _ => w.detach
  | .did task _ => task.after w
  | .exited => w.exit .returned
  | _ => w

theorem worker_step {s s' : Scene} {event : Event} (step : Step s event s') :
    s'.worker = event.after s.worker := by
  cases step with
  | did next awake free stepped found => exact (Job.step?_of_task next stepped).1
  | exited last awake stepped => exact Job.step?_of_nothing last stepped
  | _ => rfl

/-- What the thread has found is what there was to find. -/
theorem finding_step {s s' : Scene} {task : Task} {finding : Finding}
    (step : Step s (.did task finding) s') : finding = task.finds s.worker := by
  cases step with
  | did next awake free stepped found =>
    have both := found.symm.trans (Job.step?_of_task next stepped).2
    exact List.singleton_inj.1 (List.append_cancel_left both)

end Telematics.Worker
