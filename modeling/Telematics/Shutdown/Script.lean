/-
# Telematics.Shutdown.Script -- what is done with the registry, action by action

A script is a finite list of actions.  It says what a receiver does when it is
told of the shutdown, and just as well what somebody outside does: mark a
participant as ready, withdraw it, look at its status, register a receiver, which
is again a script, or hold a round.  An action on something else than the
registry is an effect of the type `ε`, which is left to the surroundings.
-/
import Telematics.Identity

namespace Telematics.Shutdown

set_option autoImplicit false

/-- What is done, action by action. -/
inductive Script (ε : Type) where
  /-- There is nothing left to do. -/
  | done
  /-- A participant has finished. -/
  | markReady (id : Identity) (next : Script ε)
  /-- A participant takes no part any more. -/
  | withdraw (id : Identity) (next : Script ε)
  /-- Looks at the status of a participant. -/
  | observe (id : Identity) (next : Script ε)
  /-- Registers a receiver that follows a script of its own. -/
  | register (id : Identity) (receiver : Script ε) (next : Script ε)
  | registerNobody (id : Identity) (next : Script ε)
  | round (next : Script ε)
  /-- Does something to the surroundings. -/
  | perform (effect : ε) (next : Script ε)
  /-- Does nothing. -/
  | idle (next : Script ε)

/-- An upper bound on the number of steps that a script takes, without those of the receivers that
the rounds in it tell. -/
def Script.size {ε : Type} : Script ε → Nat
  | .done => 1
  | .markReady _ next => next.size + 1
  | .withdraw _ next => next.size + 1
  | .observe _ next => next.size + 1
  | .register _ receiver next => (receiver.size + 1) + next.size + 1
  | .registerNobody _ next => next.size + 1
  | .round next => next.size + 2
  | .perform _ next => next.size + 1
  | .idle next => next.size + 1

end Telematics.Shutdown
