import Logline.CommandLine.Reader
import Logline.Config.Location
import Logline.Diagnostics

/-!
# The program

What a command line does, as a function of it and of the host: what is written where, and what the
program exits with.

## What is here

* `World` — the host, the time, the standard output and the runtime of one run.
* `Finish` — how a run ends.
* `Program.render`, `Program.presets` and `Program.codes` — the three actions.
* `Program.run` — a run for a command line that was understood.
-/

set_option autoImplicit false
namespace Logline

/-- What a run finds around it. -/
structure World where
  host : Host
  zone : HostZone
  now : Timestamp
  /-- The time of day in front of diagnostics. -/
  clock : Bytes
  /-- Whether the standard output takes bytes; one that does not is a full device. -/
  writable : Bool := true
  /-- What the runtime of the program writes to standard error when an action breaks down. -/
  breakdown : Action → Bytes

/-- How a run ends. -/
structure Finish where
  exit : Nat
  stdout : Bytes
  stderr : Bytes
  deriving DecidableEq, Repr

namespace Program

/-! ## Lines of help -/

/-- A character of a pattern as help shows it: marks and control characters behind a backslash. -/
def visibleChar (c : Char) : List Char :=
  match c with
  | '\n' => ['\\', 'n']
  | '\r' => ['\\', 'r']
  | '\t' => ['\\', 't']
  | '"' => ['\\', '"']
  | '\x27' => ['\\', '\x27']
  | '\\' => ['\\', '\\']
  | _ => [c]

/-- A name, filled up to eight characters, and a pattern. -/
def presetLine (name pattern : String) : String :=
  String.ofList (name.toList ++ List.replicate (8 - name.length) ' ' ++ ' ' ::
    pattern.toList.flatMap visibleChar ++ ['\n'])

/-- A code and its line of help. -/
def codeLine (c : Code) : String := String.ofList ['%', c.letter] ++ "  " ++ c.describe ++ "\n"

/-- The names and patterns of the presets. -/
def presets : Bytes := Preset.all.flatMap fun p ↦ Bytes.ofText (presetLine p.1 p.2)

/-- The codes. -/
def codes : Bytes := Code.all.flatMap fun c ↦ Bytes.ofText (codeLine c)

/-! ## Ending a run -/

/-- What the program exits with when it breaks down. -/
def crashExit : Nat := 101

/-- A run whose action breaks down, with the diagnostics that it has written. -/
def crash (w : World) (action : Action) (written : Bytes) : Finish :=
  ⟨crashExit, [], written ++ w.breakdown action⟩

/-- A run that prints help behind the diagnostics it has written.  There is no way to go on without
an output. -/
def print (w : World) (action : Action) (written help : Bytes) : Finish :=
  if w.writable then ⟨0, help, written⟩ else crash w action written

/-- A run that renders one record.  A record that has no rendering is not reported. -/
def render (w : World) (log : Diagnostics) (written : Bytes) (q : Request) (c : Config) : Finish :=
  let built := q.layout w.zone c
  let written := written ++ log.write w.clock built.reports
  let fail (message : String) : Finish :=
    ⟨1, [], written ++ log.write w.clock [⟨.error, "CLI", message⟩]⟩
  match built.value with
  | .error e => fail ("Cannot build layout: " ++ e.message)
  | .ok layout =>
    match layout.format (some (q.record w.now)) with
    | .error _ => crash w (.render q) written
    | .ok bytes =>
      if w.writable ∨ bytes = [] then ⟨0, bytes, written⟩
      else fail ("Write failed: " ++ FileError.noSpace.message)

/-- What is written when the configuration does not load. -/
def loadFailure (e : Error) : Bytes := Bytes.ofText ("Error loading config: " ++ e.message ++ "\n")

/-- The configuration of a run: the one that is named, or the one at the usual place. -/
def loadConfig (w : World) (i : Invocation) : Reported (Except Error Config) :=
  match i.config with
  | some path => Config.loadFrom w.host path
  | none => Config.load w.host

/-- A run.  The log is closed while the configuration is loaded. -/
def run (w : World) (i : Invocation) : Finish :=
  let loaded := loadConfig w i
  let written := Diagnostics.closed.write w.clock loaded.reports
  match loaded.value with
  | .error e => ⟨1, [], written ++ loadFailure e⟩
  | .ok c =>
    let opening := Diagnostics.closed.openWith c
    let written := written ++ opening.written .closed w.clock
    match i.action with
    | .render q => render w opening.log written q c
    | .presets => print w .presets written presets
    | .codes => print w .codes written codes

end Program
end Logline
