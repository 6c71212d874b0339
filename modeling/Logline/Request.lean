import Logline.Layout

/-!
# Requests

One record to be rendered, as a user asks for it: what to show and in which layout.  What the
request leaves open is settled by the configuration.

## What is here

* `Request` — pattern, preset, time zone mode and the fields of the record.
* `Request.layout` — the layout that the request and a configuration describe together.
* `Request.record` — the record.
-/

set_option autoImplicit false
namespace Logline

/-- What a user wants to see rendered. -/
structure Request where
  pattern : Option String := none
  preset : Option String := none
  utc : Bool := false
  level : Level := .default
  component : String := ""
  source : String := ""
  line : UInt32 := 0
  /-- The message in words. -/
  words : List String := []
  deriving DecidableEq, Repr

namespace Request

/-- The pattern that the request names, if it names one.  A literal pattern comes first, and an
empty one counts; a preset has to exist. -/
def ownPattern? (q : Request) : Except Error (Option String) :=
  match q.pattern, q.preset with
  | some pattern, _ => .ok (some pattern)
  | none, none => .ok none
  | none, some name =>
    match Preset.pattern? name with
    | some pattern => .ok (some pattern)
    | none => .error (.presetNotFound name)

/-- The layout of a request.  It starts from the configuration, whatever the request says; then come
the pattern of the request and its wish for universal time. -/
def layout (zone : HostZone) (q : Request) (c : Config) : Reported (Except Error Layout) := do
  let base ← Layout.ofConfig zone c
  pure do
    let pattern ← q.ownPattern?
    let patterned := match pattern with
      | some p => base.setPattern p
      | none => base
    if q.utc then
      let (l, result) := patterned.setOption zone "utc" (.bool true)
      result.map fun () ↦ l
    else .ok patterned

/-- The record of a request.  Its message is the words with one space between them. -/
def record (q : Request) (created : Timestamp) : Record :=
  { level := q.level
    created
    component := q.component
    source := q.source
    line := q.line
    message := " ".intercalate q.words }

end Request
end Logline
