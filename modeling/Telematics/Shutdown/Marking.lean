/-
# Telematics.Shutdown.Marking -- whom a round tells

A round begins by marking, in one step, everybody who is to be told as notified:
the subscribed participants with a name of their own, and then the subscribed
members of the first stage that is not drained.  A stage is drained when each of
its registered members has ended, so the members of a later stage wait until
then; a role that has not registered holds up nobody.

The shutdown is complete when every participant with a name of its own and every
registered role of the plan has ended.
-/
import Telematics.Shutdown.Registry

namespace Telematics.Shutdown

set_option autoImplicit false

variable {ρ : Type}

/-- Somebody to be told, and by which receiver. -/
structure Call (ρ : Type) where
  id : Identity
  receiver : ρ

/-- What marking leads to. -/
structure Marking (ρ : Type) where
  registry : Registry ρ
  /-- Whom to tell, in order. -/
  calls : List (Call ρ)
  /-- The first stage that was not drained. -/
  blocked : Option Nat

namespace Registry

def callOf (e : Entry ρ) : Call ρ := ⟨e.id, e.receiver⟩

/-- The calls to the subscribed participants with a name of their own. -/
def namedCalls (r : Registry ρ) : List (Call ρ) :=
  (r.entries.filter fun e => e.id.isNamed && e.status = .subscribed).map callOf

/-- Marks the subscribed participants with a name of their own. -/
def markNamed (r : Registry ρ) : Registry ρ :=
  r.mapStatus fun e => if e.id.isNamed then e.status.notify else e.status

/-- The calls to the subscribed members of a stage, in the order of the stage. -/
def stageCalls (r : Registry ρ) (stage : List Role) : List (Call ρ) :=
  ((stage.filterMap fun role => r.find? (.fixed role)).filter (·.status = .subscribed)).map callOf

def markStage (r : Registry ρ) (stage : List Role) : Registry ρ :=
  r.mapStatus fun e =>
    match e.id with
    | .fixed role => if role ∈ stage then e.status.notify else e.status
    | .named _ => e.status

/-- Whether each registered one of some roles has ended. -/
def isDrained (r : Registry ρ) (roles : List Role) : Bool :=
  roles.all fun role => ((r.status? (.fixed role)).map Status.isTerminal).getD true

/-- Whether each participant with a name of its own has ended. -/
def namedDone (r : Registry ρ) : Bool :=
  r.entries.all fun e => !e.id.isNamed || e.status.isTerminal

/-- Marks the members of the first stage that is not drained, the first one of `stages` having the
index `index`. -/
def markStages (r : Registry ρ) (index : Nat) : List (List Role) → Marking ρ
  | [] => ⟨r, [], none⟩
  | stage :: rest =>
    if r.isDrained stage then markStages r (index + 1) rest
    else ⟨r.markStage stage, r.stageCalls stage, some index⟩

/-- Marks everybody who is to be told in this round. -/
def mark (r : Registry ρ) (plan : Plan) : Marking ρ :=
  let marking := r.markNamed.markStages 0 plan.stages
  { marking with calls := r.namedCalls ++ marking.calls }

def isComplete (r : Registry ρ) (plan : Plan) : Bool :=
  r.namedDone && r.isDrained plan.roles

end Registry

end Telematics.Shutdown
