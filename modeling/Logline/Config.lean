import Logline.Pattern.Preset
import Logline.Report
import Logline.Toml.Value

/-!
# Configurations

What a user can settle once and for all: how much the program says about its own work, and the
layout it starts from.

## What is here

* `Config`, with the defaults of an empty configuration.
* `Config.ofToml?` — the configuration that a document holds.  A section is a table, or an array of
  its fields in order.
* `Config.threshold` and `Config.effectivePattern` — what the raw texts of a configuration mean.
-/

set_option autoImplicit false
namespace Logline

/-- A configuration.  Level and preset are kept as they were written. -/
structure Config where
  /-- The level from which on the program reports its own work. -/
  level : String := "info"
  /-- A pattern; it comes before the preset unless it is empty. -/
  pattern : String := ""
  preset : String := "default"
  /-- Whether times are shown in universal time. -/
  utc : Bool := false
  deriving DecidableEq, Repr

namespace Config

/-! ## From a document -/

/-- Whether a value can be a section.  A point in time can: it is a table of parts that no section
knows. -/
def isSection : Toml.Value → Bool
  | .table _ | .array _ | .dateTime _ => true
  | _ => false

/-- A field of a section, by its name in a table and by its place in an array. -/
def field? (name : String) (place : Nat) : Toml.Value → Option Toml.Value
  | .table entries => entries.lookup name
  | .array items => items[place]?
  | _ => none

/-- A field that is a string, or its default when it is missing. -/
def text? (default : String) : Option Toml.Value → Option String
  | none => some default
  | some (.string s) => some s
  | some _ => none

/-- A field that is a truth value, or its default when it is missing. -/
def bool? (default : Bool) : Option Toml.Value → Option Bool
  | none => some default
  | some (.boolean b) => some b
  | some _ => none

/-- The configuration that the entries of a document hold, unless a section or a field is of the
wrong type.  What is not known is not looked at. -/
def ofToml? (entries : List (String × Toml.Value)) : Option Config := do
  let general := entries.lookup "general"
  let layout := entries.lookup "layout"
  guard (general.all isSection && layout.all isSection)
  let level ← text? "info" (general.bind (field? "level" 0))
  let pattern ← text? "" (layout.bind (field? "pattern" 0))
  let preset ← text? "default" (layout.bind (field? "preset" 1))
  let utc ← bool? false (layout.bind (field? "utc" 2))
  some { level, pattern, preset, utc }

/-! ## What it means -/

/-- The level from which on the program reports its own work; a text that names none counts as the
default level. -/
def threshold (c : Config) : Level :=
  match Level.ofText c.level with
  | .ok l => l
  | .error _ => .default

/-- The pattern that the configuration settles: its own if it is not empty, or else that of its
preset.  An unknown preset is reported and stands for the default. -/
def effectivePattern (c : Config) : Reported String :=
  if c.pattern ≠ "" then pure c.pattern
  else match Preset.pattern? c.preset with
    | some pattern => pure pattern
    | none => do
      Reported.say .warning "CONFIG" ("Unknown preset '" ++ c.preset ++ "', using default")
      pure Preset.standard

end Config
end Logline
