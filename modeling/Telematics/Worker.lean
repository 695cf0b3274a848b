/-
# Telematics.Worker -- what owns a thread and what the thread knows

A worker is a thread with a name that can be asked to stop.  Whoever started it
holds the handle until it is given up or used for waiting; both take it, whoever
does it, and nobody can take it twice.  Asking for the stop cannot be taken back,
and it wakes the thread if it sleeps.

The name of a thread is handed over with a zero byte at its end, so the character
0 is in none.

Each operation here is one step that nothing else comes between.  Waiting for the
end takes two: `claim` takes the handle, and `joined?` answers when the end has
come.  Sleeping is `wake?`, asked until it answers.
-/
namespace Telematics

set_option autoImplicit false

/-- How a thread came to its end. -/
inductive Worker.End where
  /-- It had nothing left to do. -/
  | returned
  /-- It broke off. -/
  | failed
  deriving Repr, DecidableEq

/-- A thread, as it is seen from outside and from within. -/
structure Worker where
  name : String
  stopRequested : Bool
  /-- Whether the handle has not been taken. -/
  attached : Bool
  ended : Option Worker.End
  deriving Repr, DecidableEq

namespace Worker

def isName (name : String) : Bool := !name.toList.contains '\x00'

def start (name : String) : Worker := ⟨name, false, true, none⟩

def stop (w : Worker) : Worker := { w with stopRequested := true }

/-- Gives the handle up. -/
def detach (w : Worker) : Worker := { w with attached := false }

/-- Takes the handle in order to wait for the end, and says whether it was there. -/
def claim (w : Worker) : Bool × Worker := (w.attached, w.detach)

/-- What waiting for the end leads to: whether all was done, once the end has come. -/
def joined? (w : Worker) : Option Bool := w.ended.map (· = .returned)

/-- Whether there is a handle of a thread that has not ended. -/
def isRunning (w : Worker) : Bool := w.attached && w.ended.isNone

/-- What sleeping leads to: whether a stop was requested, once it was or the time is up. -/
def wake? (w : Worker) (timeUp : Bool) : Option Bool :=
  if w.stopRequested || timeUp then some w.stopRequested else none

/-- The thread comes to its end. -/
def exit (w : Worker) (how : End) : Worker := { w with ended := some how }

/-! ## What the steps do to each other -/

/-- A stop wakes a sleeper before its time is up. -/
@[simp] theorem wake?_stop (w : Worker) (timeUp : Bool) : w.stop.wake? timeUp = some true := by
  simp [wake?, stop]

/-- Sleep ends without a stop only when the time is up. -/
theorem wake?_eq_some_false_iff (w : Worker) (timeUp : Bool) :
    w.wake? timeUp = some false ↔ w.stopRequested = false ∧ timeUp = true := by
  cases h : w.stopRequested <;> cases timeUp <;> simp [wake?, h]

/-- Nobody takes the handle twice. -/
@[simp] theorem claim_claim (w : Worker) : w.claim.2.claim.1 = false := rfl

/-- Without a handle nothing counts as running. -/
@[simp] theorem isRunning_detach (w : Worker) : w.detach.isRunning = false := rfl

/-- A thread that has ended does not run. -/
@[simp] theorem isRunning_exit (w : Worker) (how : End) : (w.exit how).isRunning = false := by
  simp [isRunning, exit]

/-- Waiting says that all was done exactly if the thread has returned. -/
theorem joined?_eq_some_true_iff (w : Worker) :
    w.joined? = some true ↔ w.ended = some .returned := by
  cases h : w.ended <;> simp [joined?, h]

end Worker

end Telematics
