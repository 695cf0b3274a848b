/-
# Telematics.Status -- how far a participant is with its shutdown

A participant begins as subscribed and is notified once.  It ends, from either
of the two, as having completed its shutdown or as having withdrawn; an end is
final (`terminal_advance`).
-/
namespace Telematics

set_option autoImplicit false

/-- How far a participant is with its shutdown. -/
inductive Status where
  /-- It waits to be told. -/
  | subscribed
  /-- It has been told and is at work. -/
  | notified
  /-- It has finished. -/
  | shutdownCompleted
  /-- It takes no part any more. -/
  | unsubscribed
  deriving Repr, DecidableEq

namespace Status

def all : List Status :=
  [.subscribed, .notified, .shutdownCompleted, .unsubscribed]

/-- The word for a status, shown and in JSON. -/
def text : Status → String
  | .subscribed => "Subscribed"
  | .notified => "Notified"
  | .shutdownCompleted => "ShutdownCompleted"
  | .unsubscribed => "Unsubscribed"

/-- The status that a word stands for. -/
def ofText? (text : String) : Option Status :=
  all.find? (·.text = text)

/-- Whether a participant in this status is done. -/
def isTerminal : Status → Bool
  | .shutdownCompleted => true
  | .unsubscribed => true
  | _ => false

/-- The status after an attempt to end in `final`: an end that was reached before stays. -/
def advance (status final : Status) : Status :=
  if status.isTerminal then status else final

/-- The status after the participant has been told, if it was still waiting for that. -/
def notify (status : Status) : Status :=
  if status = .subscribed then .notified else status

/-- The word tells a status from the others. -/
theorem ofText?_text (status : Status) : ofText? status.text = some status := by
  cases status <;> decide

/-- An end is final. -/
theorem terminal_advance {status : Status} (final : Status) (h : status.isTerminal = true) :
    status.advance final = status := by
  simp [advance, h]

theorem isTerminal_notify (status : Status) : status.notify.isTerminal = status.isTerminal := by
  cases status <;> rfl

end Status

end Telematics
