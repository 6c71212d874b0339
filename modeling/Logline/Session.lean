import Logline.Config.Location
import Logline.Diagnostics
import Logline.Layout.Stage
import Logline.Request

/-!
# Sessions

One process: a layout in use, and the diagnostic log that everything reports to.  Whether a report
is written depends on what has happened before, and the log is never opened twice.  The files of the
host and the time of day may be others whenever something happens.

## What is here

* `Session` — the state of a process.
* `Session.Step` and `Session.Answer` — what can happen in it, and what comes back.
* `Session.Event` — something that happens, on the host as it then is and at that time of day.
* `Session.react` — one event, with the diagnostics it writes; `Session.run` — a list of them.
-/

set_option autoImplicit false
namespace Logline

/-- The state of a process. -/
structure Session where
  stage : Stage
  diagnostics : Diagnostics := .closed
  deriving DecidableEq, Repr

namespace Session

/-- What can happen in a process. -/
inductive Step where
  /-- Something is done with the layout. -/
  | layout (x : Stage.Step)
  /-- The log is asked whether it would write reports of a level. -/
  | enabled (l : Level)
  | report (r : Report)
  /-- The log is opened for the configuration that is found. -/
  | openLoading
  /-- The log is opened for a configuration at hand. -/
  | openWith (c : Config)
  | effectivePattern (c : Config)
  /-- A configuration is loaded from its usual place. -/
  | load
  /-- A configuration is loaded from a path. -/
  | loadFrom (path : String)
  | buildLayout (q : Request) (c : Config)

/-- What comes back. -/
inductive Answer where
  | stage (a : Stage.Answer)
  | done
  | flag (b : Bool)
  | text (s : String)
  | config (c : Config)
  | template (t : Template)
  | refused (e : Error)
  deriving DecidableEq, Repr

/-- What a step comes to before anything is written. -/
structure Performed where
  stage : Stage
  answer : Answer
  /-- What the step does to the log, and what it reports. -/
  turn : Diagnostics.Turn

/-- A step that leaves the log as it is. -/
def keepingLog (s : Session) (r : Reported (Stage × Answer)) : Performed :=
  ⟨r.value.1, r.value.2, s.diagnostics.keep r.reports⟩

/-- What comes back when a configuration is loaded. -/
def Answer.ofLoaded : Except Error Config → Answer
  | .ok c => .config c
  | .error e => .refused e

/-- One step, before anything is written. -/
def perform (h : Host) (s : Session) : Step → Performed
  | .layout x => s.keepingLog do
    let (stage, a) ← s.stage.step x
    pure (stage, .stage a)
  | .enabled l => s.keepingLog (pure (s.stage, .flag (s.diagnostics.enabled l)))
  | .report r => s.keepingLog do
    Reported.say r.level r.scope r.message
    pure (s.stage, .done)
  | .openLoading => ⟨s.stage, .done, s.diagnostics.openLoading (Config.load h)⟩
  | .openWith c => ⟨s.stage, .done, s.diagnostics.openWith c⟩
  | .effectivePattern c => s.keepingLog do
    let pattern ← c.effectivePattern
    pure (s.stage, .text pattern)
  | .load => s.keepingLog do
    let loaded ← Config.load h
    pure (s.stage, .ofLoaded loaded)
  | .loadFrom path => s.keepingLog do
    let loaded ← Config.loadFrom h path
    pure (s.stage, .ofLoaded loaded)
  | .buildLayout q c => s.keepingLog do
    match ← q.layout s.stage.host c with
    | .ok layout => pure (s.stage, .template layout.template)
    | .error e => pure (s.stage, .refused e)

/-- Something that happens in a process. -/
structure Event where
  /-- The host as it then is. -/
  host : Host
  /-- The time of day. -/
  clock : Bytes
  step : Step

/-- What an event leads to. -/
structure Outcome where
  session : Session
  answer : Answer
  /-- The diagnostics that the event writes. -/
  written : Bytes

/-- One event.  Every report goes to the log as it is when the report is made. -/
def react (s : Session) (e : Event) : Outcome :=
  let p := s.perform e.host e.step
  { session := { stage := p.stage, diagnostics := p.turn.log }
    answer := p.answer
    written := p.turn.written s.diagnostics e.clock }

/-- What the events of a process lead to, one after the other. -/
def run (s : Session) : List Event → List Outcome
  | [] => []
  | e :: rest => s.react e :: run (s.react e).session rest

end Session
end Logline
