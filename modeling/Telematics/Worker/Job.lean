/-
# Telematics.Worker.Job -- a thread with a list of things to do

A job is done task by task, and what each task finds is kept.  A job that is held
back begins when it is released, and a gate is passed with a permit that somebody
outside has given.  A thread that waits for its own end takes the handle and finds
nothing, so it never waits.

`step?` has no answer while the job has to wait and after its end.  Waiting for
the job lets all the time pass that it needs (`run`).
-/
import Telematics.Text.Elapsed
import Telematics.Worker

namespace Telematics.Worker

set_option autoImplicit false

/-- Something to do. -/
inductive Task where
  /-- Sleeps for some time, or until a stop is requested. -/
  | sleep (time : Span)
  | checkStop
  | tellName
  /-- Gives its own handle up. -/
  | detach
  /-- Waits for its own end. -/
  | join
  | checkRunning
  | stop
  | pass
  /-- Breaks off. -/
  | fail
  deriving Repr, DecidableEq

/-- What a task has found. -/
inductive Finding where
  | flag (value : Bool)
  /-- The name that the worker was given, and that of its thread. -/
  | names (worker thread : String)
  | nothing
  /-- The job broke off here. -/
  | failure
  deriving Repr, DecidableEq

/-- A thread that is doing something. -/
structure Job where
  worker : Worker
  /-- What is still to be done. -/
  tasks : List Task
  /-- Whether it has yet to be released. -/
  held : Bool
  /-- The number of gates that may be passed. -/
  permits : Nat
  findings : List Finding
  deriving Repr, DecidableEq

namespace Job

def start (name : String) (tasks : List Task) (held : Bool) : Job :=
  ⟨.start name, tasks, held, 0, []⟩

/-- A job that has just been started, if there can be a thread with its name. -/
def start? (name : String) (tasks : List Task) (held : Bool) : Option Job :=
  if isName name then some (start name tasks held) else none

/-- What a task finds and leaves behind, unless it has to wait. -/
def perform (job : Job) (timeUp : Bool) : Task → Option (Finding × Job)
  | .sleep _ => (job.worker.wake? timeUp).map fun b => (.flag b, job)
  | .checkStop => some (.flag job.worker.stopRequested, job)
  | .tellName => some (.names job.worker.name job.worker.name, job)
  | .detach => some (.nothing, { job with worker := job.worker.detach })
  | .join => some (.flag false, { job with worker := job.worker.claim.2 })
  | .checkRunning => some (.flag job.worker.isRunning, job)
  | .stop => some (.nothing, { job with worker := job.worker.stop })
  | .pass =>
    match job.permits with
    | 0 => none
    | permits + 1 => some (.flag true, { job with permits })
  | .fail => some (.failure, { job with worker := job.worker.exit .failed })

/-- One step of a job, for which `timeUp` says whether its sleep is over. -/
def step? (job : Job) (timeUp : Bool) : Option Job :=
  if job.held || job.worker.ended.isSome then none
  else
    match job.tasks with
    | [] => some { job with worker := job.worker.exit .returned }
    | task :: tasks =>
      (job.perform timeUp task).map fun (finding, job) =>
        { job with tasks, findings := job.findings ++ [finding] }

/-- At most so many steps of a job to which all the time is given that it needs. -/
def steps : Nat → Job → Job
  | 0, job => job
  | n + 1, job =>
    match job.step? true with
    | some job => steps n job
    | none => job

/-- All that a job does of its own accord. -/
def run (job : Job) : Job := steps (job.tasks.length + 1) job

/-- Waits for the end of a job; there is no answer if that does not come. -/
def join? (job : Job) : Option (Bool × Job) :=
  let (had, worker) := job.worker.claim
  let job := { job with worker }
  if had then
    let job := job.run
    job.worker.joined?.map fun done => (done, job)
  else some (false, job)

/-- Waits until a job has ended, without its handle. -/
def await? (job : Job) : Option Job :=
  let job := job.run
  job.worker.ended.map fun _ => job

/-- Lets a job begin. -/
def release (job : Job) : Job := { job with held := false }

def permit (job : Job) : Job := { job with permits := job.permits + 1 }

end Job

end Telematics.Worker
