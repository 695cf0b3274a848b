/-
# Telematics.Shutdown.Coordinator -- the thread that brings about the shutdown

The coordinator is started once.  Its thread first lets the grace period pass,
then holds one round after the other with an interval between them, and when a
round finds the shutdown complete it says so: it is finished, and whoever waits
for the completion is told, once.

`advance` is one step of the coordinator's thread, between which others may take
theirs.  `elapse` lets the thread do all that it can while nobody else does
anything, which ends in a round that changes nothing or in the completion; the
intervals between rounds are not counted.
-/
import Telematics.Shutdown.Course
import Telematics.Shutdown.Timing

namespace Telematics.Shutdown

set_option autoImplicit false

/-- What the thread of a coordinator does. -/
inductive Phase (ε : Type) where
  /-- There is no thread yet. -/
  | idle
  /-- It waits for those who come late, for so long. -/
  | grace (left : Span)
  /-- It waits for the next round. -/
  | resting
  /-- It holds a round. -/
  | working (thread : Thread ε)
  /-- The shutdown is complete, and nobody has been told. -/
  | closing
  | completing
  /-- It has ended. -/
  | over

/-- The coordinator of a shutdown. -/
structure Coordinator (ε : Type) where
  course : Course ε
  timing : Timing
  phase : Phase ε
  finished : Bool
  completions : Nat

/-- What should be known about a participant whom no round of the plan will tell. -/
def Plan.notices (plan : Plan) (id : Identity) : List Notice :=
  match id with
  | .fixed role => if plan.contains role then [] else [.unplanned role]
  | .named _ => []

namespace Coordinator

variable {ε : Type}

/-- A coordinator that has not been started, with nobody registered. -/
def new (plan : Plan) (timing : Timing) : Coordinator ε :=
  ⟨.start plan, timing, .idle, false, 0⟩

/-- Registers a receiver, and says if it will never be told. -/
def register (c : Coordinator ε) (id : Identity) (receiver : Option (Script ε)) :
    Coordinator ε × Bool × List Notice :=
  let (registry, done, notices) := c.course.registry.register id receiver
  ({ c with course := { c.course with registry } }, done, c.course.plan.notices id ++ notices)

def follow (c : Coordinator ε) (script : Script ε) : Coordinator ε × Thread ε :=
  let (course, thread) := c.course.follow script
  ({ c with course }, thread)

/-- Starts the thread; `spawned` says whether there is one. -/
def start (c : Coordinator ε) (spawned : Except SystemError Unit) :
    Except StartError (Coordinator ε) :=
  match c.phase with
  | .idle =>
    match spawned with
    | .ok () => .ok { c with phase := .grace c.timing.grace }
    | .error e => .error (.noThread e)
  | _ => .error .alreadyStarted

/-- The report of the round that a thread has held. -/
def reportOf? (thread : Thread ε) : Option Report :=
  match thread.outcomes.getLast? with
  | some (.report report) => some report
  | _ => none

def phaseAfter (thread : Thread ε) : Phase ε :=
  match reportOf? thread with
  | some report => if report.complete then .closing else .resting
  | none => .resting

/-- One step of the coordinator's thread, for which a time of waiting has to be over, and what it
does to the surroundings. -/
def advance (c : Coordinator ε) : Coordinator ε × List ε :=
  match c.phase with
  | .idle => (c, [])
  | .grace _ => ({ c with phase := .working (.ofScript (.round .done)) }, [])
  | .resting => ({ c with phase := .working (.ofScript (.round .done)) }, [])
  | .working thread =>
    if thread.stack.isEmpty then ({ c with phase := phaseAfter thread }, [])
    else
      let (course, next) := Course.step (c.course, thread)
      ({ c with course, phase := .working next }, next.effects.drop thread.effects.length)
  | .closing =>
    if c.finished then ({ c with phase := .over }, [])
    else ({ c with finished := true, phase := .completing }, [])
  | .completing => ({ c with completions := c.completions + 1, phase := .over }, [])
  | .over => (c, [])

/-- Whether the thread can do nothing before others have done something: it has not been started,
it has ended, or it rests and a round would tell nobody and find the shutdown not complete. -/
def isWaiting (c : Coordinator ε) : Bool :=
  match c.phase with
  | .idle => true
  | .over => true
  | .resting =>
    (c.course.registry.mark c.course.plan).calls.isEmpty &&
      !c.course.registry.isComplete c.course.plan
  | _ => false

/-- More steps than the thread takes until it has to wait: the steps that there are, and for each
round, of which there are no more than steps, a few more. -/
def patience (c : Coordinator ε) : Nat :=
  6 * (c.course.registry.work + 3)

/-- A whole round, while nobody else does anything. -/
def holdRound (c : Coordinator ε) : Coordinator ε × Thread ε :=
  let (course, thread) := c.course.follow (.round .done)
  ({ c with course, phase := phaseAfter thread }, thread)

/-- Rounds until one finds the shutdown complete or changes nothing, at most so many. -/
def holdRounds : Nat → Coordinator ε → Coordinator ε × List ε
  | 0, c => (c, [])
  | n + 1, c =>
    let (c', thread) := c.holdRound
    match c'.phase with
    | .closing => (c'.advance.1.advance.1, thread.effects)
    | _ =>
      if c'.course.calls.length = c.course.calls.length then (c', thread.effects)
      else
        let (c', effects) := holdRounds n c'
        (c', thread.effects ++ effects)

/-- All that the coordinator's thread does of its own accord.  A round that tells somebody leaves
less to be done, so there are no more rounds than there is work. -/
def settle (c : Coordinator ε) : Coordinator ε × List ε :=
  holdRounds (c.course.registry.work + 1) c

/-- Lets time pass while nobody else does anything. -/
def elapse (c : Coordinator ε) (time : Span) : Coordinator ε × List ε :=
  match c.phase with
  | .grace left =>
    if left.nanoseconds ≤ time.nanoseconds then c.settle
    else ({ c with phase := .grace ⟨left.nanoseconds - time.nanoseconds⟩ }, [])
  | .resting => c.settle
  | _ => (c, [])

end Coordinator

end Telematics.Shutdown
