import Telemetry.Host
import Telemetry.Store

/-!
# The world of a registry

The store of metrics together with the host. Messages that show a metric read it, so that forming
them can change the store; they are formed only if they are kept.

Main statement: `logAbout_of_not_keeps` (a message that is not kept changes nothing).
-/

namespace Telemetry

/-- The metrics and the host that a registry works with. -/
structure World where
  store : Store := {}
  host : Host

namespace World

def logger : String := "meterkit.registry"

def log (w : World) (level : Int) (message : String) (cause : Option Fault := none) : World :=
  { w with host := w.host.log logger level message cause }

/-- Send a message that shows a metric between two texts. -/
def logAbout (w : World) (level : Int) (before : String) (r : Ref) (after : String)
    (cause : Option Fault := none) : World :=
  if w.host.keeps logger level then
    let (shown, store) := w.store.describe r
    let message := shown.map fun text => before ++ text ++ after
    { store, host := w.host.addRecord { logger, level := .int level, message, cause } }
  else w

/-- A message that is not kept changes nothing. -/
theorem logAbout_of_not_keeps {w : World} {level : Int} (h : w.host.keeps logger level = false)
    (before : String) (r : Ref) (after : String) (cause : Option Fault) :
    w.logAbout level before r after cause = w := by
  simp [logAbout, h]

end World

end Telemetry
