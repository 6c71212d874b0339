import Logline.Level
import Logline.Timestamp

/-!
# Log records

The event that a layout renders.

## What is here

* `Record` — level, creation stamp, component, source, line and message.
* `Record.shortSource` — the source without its directories.
-/

set_option autoImplicit false
namespace Logline

/-- Everything that a layout can show about one event.  The creation stamp keeps the offset it was
taken in, so that a local rendering shows the wall clock of the process that logged. -/
structure Record where
  level : Level := .default
  created : Timestamp := .epoch
  /-- Free text put in front of the message, such as the name of a component. -/
  component : String := ""
  /-- The place in the source, usually the path of a file. -/
  source : String := ""
  line : UInt32 := 0
  message : String := ""
  deriving DecidableEq, Repr

/-- The characters after the last `sep`, or all of them when there is none. -/
def afterLast (sep : Char) (cs : List Char) : List Char :=
  (cs.reverse.takeWhile (· ≠ sep)).reverse

/-- The text after the last `/` of the source, or the whole source when there is none. -/
def Record.shortSource (r : Record) : String := String.ofList (afterLast '/' r.source.toList)

example : ({ source := "a/b/c" } : Record).shortSource = "c" := by decide
example : ({ source := "a/" } : Record).shortSource = "" := by decide

end Logline
