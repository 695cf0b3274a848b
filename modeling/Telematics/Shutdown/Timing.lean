/-
# Telematics.Shutdown.Timing -- the pace of a shutdown

The coordinator first waits for participants that come late, and then looks
after the participants at regular intervals.
-/
import Telematics.Environment

namespace Telematics.Shutdown

set_option autoImplicit false

/-- The pace of a shutdown. -/
structure Timing where
  /-- How long participants may still come. -/
  grace : Span
  /-- The time between two rounds. -/
  interval : Span
  deriving Repr, DecidableEq

namespace Timing

def standard : Timing := ⟨.ofMilliseconds 5000, .ofMilliseconds 1000⟩

def ofEnvironment (env : Environment) : Timing where
  grace := (env.span? "TC_SHUTDOWN_GRACE_MS").getD standard.grace
  interval := (env.span? "TC_SHUTDOWN_TICK_MS").getD standard.interval

end Timing

end Telematics.Shutdown
