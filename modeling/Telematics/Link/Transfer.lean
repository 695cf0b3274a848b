/-
# Telematics.Link.Transfer -- moving a number of bytes

A transfer moves an exact number of bytes, in as many portions as it takes.  One
attempt moves some of them, meets the end, finds that nothing can be moved in
time, or fails.  The transfer is done when all bytes have moved; it is short if
the end comes before, whatever the portions were.  A transfer of no bytes
succeeds without an attempt.
-/
import Telematics.Link.Error

namespace Telematics.Link

set_option autoImplicit false

/-- What one attempt to move bytes led to. -/
inductive Attempt where
  | moved (count : Nat)
  /-- Nothing could be moved in time. -/
  | blocked
  /-- The operating system refused. -/
  | failed (error : SystemError)
  deriving Repr, DecidableEq

/-- What is to be moved, and how. -/
structure Transfer (σ : Type) where
  direction : Direction
  timeout : Span
  expected : Nat
  /-- Moves at most the given number of bytes. -/
  attempt : Nat → σ → Attempt × σ

namespace Transfer

variable {σ : Type}

/-- Moves what is left behind the first `done` bytes. -/
def continueFrom (t : Transfer σ) (done : Nat) (s : σ) : Except LinkError Nat × σ :=
  if done < t.expected then
    match t.attempt (t.expected - done) s with
    | (.moved 0, s) => (.error (.shortTransfer t.direction done t.expected), s)
    | (.moved (n + 1), s) => t.continueFrom (done + (n + 1)) s
    | (.blocked, s) => (.error (.timeout t.direction t.timeout), s)
    | (.failed e, s) => (.error (.io e), s)
  else (.ok done, s)
termination_by t.expected - done

/-- Moves all the bytes, if an attempt is possible before the time is up. -/
def run (t : Transfer σ) (ready : Bool) (s : σ) : Except LinkError Nat × σ :=
  if t.expected = 0 then (.ok 0, s)
  else if ready then t.continueFrom 0 s
  else (.error (.timeout t.direction t.timeout), s)

end Transfer

end Telematics.Link
