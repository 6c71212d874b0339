import Logline.Text.Blank
import Logline.Text.Lowercase

/-!
# Severity levels

Every record carries one of eight levels.  They are ordered from the chattiest to the gravest, and
their ordinals are stable because a layout can print them.

## What is here

* `Level` with its ordinal (`Level.ordinal`, `Level.ofOrdinal?`), its order, its lower-case `name`
  and its four-letter `label`.
* `Level.spellings` — the fifteen words that name a level.
* `Level.ofText` — the level that a text names, blanks at the ends and case aside.
-/

set_option autoImplicit false
namespace Logline

/-- The severity of a record, from the chattiest to the gravest. -/
inductive Level where
  | finest
  | fine
  | debug
  | trace
  | info
  | warning
  | error
  | critical
  deriving DecidableEq, Repr

namespace Level

/-- Every level in ascending order. -/
def all : List Level := [finest, fine, debug, trace, info, warning, error, critical]

/-- The level of a record that names none. -/
def default : Level := info

instance : Inhabited Level := ⟨default⟩

/-- The position of a level in `all`. -/
def ordinal : Level → Nat
  | finest => 0
  | fine => 1
  | debug => 2
  | trace => 3
  | info => 4
  | warning => 5
  | error => 6
  | critical => 7

/-- The level at a position of `all`. -/
def ofOrdinal? (n : Nat) : Option Level := all[n]?

theorem ofOrdinal?_eq_some_iff {n : Nat} {l : Level} : ofOrdinal? n = some l ↔ n = l.ordinal := by
  constructor
  · intro h
    obtain ⟨hn, hl⟩ := List.getElem?_eq_some_iff.1 h
    simp only [all, List.length_cons, List.length_nil] at hn
    match n, hn with
    | 0, _ | 1, _ | 2, _ | 3, _ | 4, _ | 5, _ | 6, _ | 7, _ => subst hl; rfl
  · rintro rfl
    cases l <;> rfl

/-- Levels are compared by their ordinals. -/
instance : LE Level := ⟨fun a b ↦ a.ordinal ≤ b.ordinal⟩

instance (a b : Level) : Decidable (a ≤ b) := inferInstanceAs (Decidable (a.ordinal ≤ b.ordinal))

instance : Ord Level := ⟨fun a b ↦ compare a.ordinal b.ordinal⟩

/-- The lower-case name, as configurations and command lines write it. -/
def name : Level → String
  | finest => "finest"
  | fine => "fine"
  | debug => "debug"
  | trace => "trace"
  | info => "info"
  | warning => "warning"
  | error => "error"
  | critical => "critical"

/-- The label in a rendered line: four letters each, so that columns line up. -/
def label : Level → String
  | finest => "FNST"
  | fine => "FINE"
  | debug => "DEBG"
  | trace => "TRAC"
  | info => "INFO"
  | warning => "WARN"
  | error => "EROR"
  | critical => "CRIT"

/-- The level with a given name, letter for letter. -/
def ofName? (s : String) : Option Level := all.find? fun l ↦ l.name == s

/-! ## Levels from free text -/

/-- The words that name a level, in lower case. -/
def spellings : List (String × Level) :=
  [("finest", finest), ("fnst", finest), ("fine", fine), ("debug", debug), ("debg", debug),
   ("trace", trace), ("trac", trace), ("info", info), ("warning", warning), ("warn", warning),
   ("error", error), ("eror", error), ("err", error), ("critical", critical), ("crit", critical)]

/-- A text that names no level. -/
structure Unknown where
  text : String
  deriving DecidableEq, Repr

/-- The complaint about a text that names no level; the text stands in it as it was given. -/
def Unknown.message (e : Unknown) : String := "unknown log level: '" ++ e.text ++ "'"

/-- The level that a text names.  Blanks at its ends do not count and neither does case. -/
def ofText (s : String) : Except Unknown Level :=
  match spellings.lookup (Text.lower (Text.trim s)) with
  | some l => .ok l
  | none => .error ⟨s⟩

end Level
end Logline
