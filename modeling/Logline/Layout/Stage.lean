import Logline.Layout

/-!
# A layout in use

A layout is changed and asked for renderings in any order, while the zone of its host may change
under it.  It is kept behind a lock, and a rendering that breaks down while it holds the lock leaves
it poisoned.

## What is here

* `Stage` — a layout behind its lock, and the zone of its host.
* `Stage.lock?` and `Stage.lock` — asking for the layout, and taking it in any case.
* `Stage.Step` and `Stage.Answer` — what can be done with it, and what comes back.
* `Stage.step` — one step; `Stage.run` — a list of them, with their answers.
-/

set_option autoImplicit false
namespace Logline

/-- A layout behind a lock, and the zone of its host. -/
structure Stage where
  layout : Layout
  host : HostZone
  /-- Whether something has broken down while it held the lock. -/
  poisoned : Bool := false
  deriving DecidableEq, Repr

namespace Stage

/-- Asks for the layout.  A poisoned lock refuses it, and hands it over in the refusal. -/
def lock? (s : Stage) : Except Layout Layout := if s.poisoned then .error s.layout else .ok s.layout

/-- Takes the layout, refused or not: every part of it is assigned whole, so that none can be left
half-written. -/
def lock (s : Stage) : Layout :=
  match s.lock? with
  | .ok layout => layout
  | .error layout => layout

/-- What can be done with a layout. -/
inductive Step where
  /-- Set an option, and say what went wrong. -/
  | setOption (name : String) (value : Json)
  /-- Set an option, and go on if something goes wrong. -/
  | trySetOption (name : String) (value : Json)
  | setPattern (pattern : String)
  | setUtc (utc : Bool)
  | format (record : Option Record)
  | template
  /-- The zone of the host becomes another one. -/
  | moveHost (host : HostZone)

/-- What comes back. -/
inductive Answer where
  | done
  | refused (e : Error)
  | rendered (bytes : Bytes)
  /-- The record has no rendering. -/
  | failed (e : RenderError)
  | template (t : Template)
  deriving DecidableEq, Repr

/-- One step: the stage after it, what comes back, and what is reported.  A rendering that fails
breaks down with the lock in its hands. -/
def step (s : Stage) : Step → Reported (Stage × Answer)
  | .setOption name value =>
    match s.lock.setOption s.host name value with
    | (layout, .ok ()) => pure ({ s with layout }, .done)
    | (layout, .error e) => pure ({ s with layout }, .refused e)
  | .trySetOption name value => do
    let layout ← s.lock.trySetOption s.host name value
    pure ({ s with layout }, .done)
  | .setPattern pattern => pure ({ s with layout := s.lock.setPattern pattern }, .done)
  | .setUtc utc => pure ({ s with layout := s.lock.setUtc s.host utc }, .done)
  | .format record =>
    match s.lock.format record with
    | .ok bytes => pure (s, .rendered bytes)
    | .error e => pure ({ s with poisoned := true }, .failed e)
  | .template => pure (s, .template s.lock.template)
  | .moveHost host => pure ({ s with host }, .done)

/-- A list of steps: the stage after them, and the answers in order. -/
def run (s : Stage) : List Step → Reported (Stage × List Answer)
  | [] => pure (s, [])
  | x :: rest => do
    let (s', a) ← s.step x
    let (s'', as) ← run s' rest
    pure (s'', a :: as)

end Stage
end Logline
