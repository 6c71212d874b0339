import Logline.Config
import Logline.Error
import Logline.Report

/-!
# The diagnostic log

The program's log of its own work.  It is silent until it is opened; the first opening fixes the
level from which on reports are written, and later ones change nothing.

## What is here

* `Diagnostics`, with `Diagnostics.enabled` and `Diagnostics.write`.
* `Diagnostics.Turn` — what one event does to the log, and what it reports before and after that.
* `Diagnostics.openWith` and `Diagnostics.openLoading` — the two ways to open it, with a
  configuration at hand or by loading one.
-/

set_option autoImplicit false
namespace Logline

/-- The state of the log: the level from which on it writes, once it is open. -/
structure Diagnostics where
  threshold : Option Level := none
  deriving DecidableEq, Repr

namespace Diagnostics

/-- The log before it is opened. -/
def closed : Diagnostics := {}

/-- Whether a report of a level would be written. -/
def enabled (d : Diagnostics) (l : Level) : Bool := d.threshold.any fun t ↦ decide (t ≤ l)

/-- The lines of the reports that are written; `clock` is the time of day. -/
def write (d : Diagnostics) (clock : Bytes) (reports : List Report) : Bytes :=
  (reports.filter fun r ↦ d.enabled r.level).flatMap (Report.line clock)

/-- What one event does to the log. -/
structure Turn where
  /-- What is reported while the log is as it was. -/
  before : List Report := []
  /-- The log after the event. -/
  log : Diagnostics
  /-- What is reported then. -/
  after : List Report := []
  deriving DecidableEq, Repr

/-- The lines that are written when an event does this to the log `d`. -/
def Turn.written (d : Diagnostics) (clock : Bytes) (turn : Turn) : Bytes :=
  d.write clock turn.before ++ turn.log.write clock turn.after

/-- An event that leaves the log as it is. -/
def keep (d : Diagnostics) (reports : List Report) : Turn := { before := reports, log := d }

/-- What is said when the log has just been opened. -/
def ready : Report := ⟨.debug, "INTERNAL", "Internal logger ready"⟩

/-- Opens the log for a configuration.  An open log stays as it is. -/
def openWith (d : Diagnostics) (c : Config) : Turn :=
  if d.threshold.isSome then d.keep []
  else
    { log := ⟨some c.threshold⟩
      after := [⟨.debug, "INTERNAL", "Log level: " ++ c.threshold.name⟩, ready] }

/-- Opens the log for the configuration that `load` finds, or for an empty one if it finds none.
What loading reports goes to the log as it was.  An open log stays as it is and loads nothing. -/
def openLoading (d : Diagnostics) (load : Reported (Except Error Config)) : Turn :=
  if d.threshold.isSome then d.keep []
  else
    let config := match load.value with
      | .ok c => c
      | .error _ => {}
    { before := load.reports, log := ⟨some config.threshold⟩, after := [ready] }

end Diagnostics
end Logline
