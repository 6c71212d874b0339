import Logline.Config
import Logline.Pattern.Preset
import Logline.Render
import Logline.Report
import Logline.Setting
import Logline.Zone

/-!
# Layouts

A layout turns records into bytes.  It holds a compiled pattern, whether times are universal or
local, and the zone texts that were captured when that was last decided.

## What is here

* `Layout`, from a pattern (`Layout.ofPattern`) or a configuration (`Layout.ofConfig`).
* `Layout.setPattern`, `Layout.setUtc` and `Layout.setOption` — changing it.
* `Layout.format` — rendering.  It fails on one kind of record only: one whose local date is outside
  the calendar's range, where the template shows a date or a time.
-/

set_option autoImplicit false
namespace Logline

/-- What a layout renders by. -/
structure Layout where
  template : Template
  utc : Bool
  zone : ZoneText
  deriving DecidableEq, Repr

/-- Why a record has no rendering. -/
inductive RenderError where
  /-- The wall clock of the record shows a date outside the range of the calendar. -/
  | localDateOutOfRange
  deriving DecidableEq, Repr

namespace Layout

/-! ## Making a layout -/

/-- The layout of a pattern, in local time.  An empty pattern stands for the default one. -/
def ofPattern (host : HostZone) (pattern : String) : Layout :=
  { template := Template.parse (if pattern = "" then Preset.standard else pattern)
    utc := false
    zone := ZoneText.capture host false }

/-- The layout of the default pattern. -/
def default (host : HostZone) : Layout := ofPattern host Preset.standard

/-- The layout with another pattern.  An empty pattern stays empty and renders nothing. -/
def setPattern (l : Layout) (pattern : String) : Layout :=
  { l with template := Template.parse pattern }

/-- The layout in universal or in local time, with the zone texts of the host as it is now. -/
def setUtc (host : HostZone) (l : Layout) (utc : Bool) : Layout :=
  { l with utc, zone := ZoneText.capture host utc }

/-- The layout that a configuration describes. -/
def ofConfig (host : HostZone) (c : Config) : Reported Layout := do
  let pattern ← c.effectivePattern
  pure ((ofPattern host pattern).setUtc host c.utc)

/-! ## Options -/

/-- Puts in what a value has been read as, unless it could not be read. -/
def assign {α : Type} (l : Layout) (read : Except Error α) (put : α → Layout) :
    Layout × Except Error Unit :=
  match read with
  | .ok a => (put a, .ok ())
  | .error e => (l, .error e)

/-- Sets an option to a loosely typed value: the layout after that, and what went wrong. -/
def setOption (host : HostZone) (l : Layout) (name : String) (value : Json) :
    Layout × Except Error Unit :=
  if name = "pattern" ∨ name = "format" then
    l.assign (Setting.patternBytes name value) fun bytes ↦
      { l with template := Template.compile bytes }
  else if name = "utc" then l.assign (Setting.flag value) (l.setUtc host)
  else (l, .error (.badOption name))

/-- `setOption` for callers that go on with the layout they have then: an error is reported and
dropped. -/
def trySetOption (host : HostZone) (l : Layout) (name : String) (value : Json) : Reported Layout :=
  match l.setOption host name value with
  | (l', .ok ()) => pure l'
  | (l', .error e) => do
    Reported.say .warning "LAYOUT" ("Ignoring option " ++ name ++ ": " ++ e.message)
    pure l'

/-! ## Rendering -/

/-- What stands in place of a missing record. -/
def nil : Bytes := Bytes.ofText "<nil>"

/-- The calendar and clock of a record as the layout shows them.  A template that shows neither does
not ask for them. -/
def moment? (l : Layout) (r : Record) : Option Moment :=
  if l.template.showsTime then if l.utc then some r.created.utc else r.created.local?
  else some Moment.zero

/-- The bytes of a record. -/
def format (l : Layout) : Option Record → Except RenderError Bytes
  | none => .ok nil
  | some r =>
    if l.template.isEmpty then .ok []
    else match l.moment? r with
      | some m => .ok (l.template.fill (r.field m l.zone))
      | none => .error .localDateOutOfRange

end Layout
end Logline
