import Logline.Pattern.Code

/-!
# Templates

A pattern is compiled once and filled in for every record.  It is cut at its percent signs: what
stands before the first one is copied, and each later piece is a code, its first byte, with a tail
that is copied after it.

## What is here

* `Pattern.pieces` — a pattern cut at its percent signs.
* `Template` and `Template.compile` — the compiled pattern.  Pieces that could never show anything
  are left out of it.
* `Template.fill` — the template with a text for every code.
* `Template.isEmpty` and `Template.showsTime` — what a layout asks before it looks at the record.
* `Template.Canonical` and `Template.toPattern` — the templates that compiling can give, and a
  pattern for each of them.
-/

set_option autoImplicit false
namespace Logline

/-- The byte that announces a code. -/
def percent : UInt8 := '%'.toUInt8

/-- The text before the first percent sign, and the pieces behind each of them. -/
def Pattern.pieces : Bytes → Bytes × List Bytes
  | [] => ([], [])
  | b :: rest =>
    let (head, later) := pieces rest
    if b = percent then ([], head :: later) else (b :: head, later)

/-- A piece behind a percent sign: its code, if its first byte is one, and the bytes after that
byte. -/
structure Segment where
  code : Option Code
  tail : Bytes
  deriving DecidableEq, Repr

namespace Segment

/-- The segment of a piece.  Neither an empty piece nor a lone byte that is no code has one, since
neither would show anything. -/
def ofPiece? : Bytes → Option Segment
  | [] => none
  | b :: tail =>
    let code := Code.ofByte? b
    if code = none ∧ tail = [] then none else some ⟨code, tail⟩

/-- The segment with `text c` in place of the code `c`. -/
def fill (text : Code → Bytes) (s : Segment) : Bytes := (s.code.map text).getD [] ++ s.tail

end Segment

/-- A compiled pattern: bytes to copy, and segments after them. -/
structure Template where
  head : Bytes
  segments : List Segment
  deriving DecidableEq, Repr

namespace Template

/-- The template of a pattern. -/
def compile (pattern : Bytes) : Template :=
  let (head, later) := Pattern.pieces pattern
  ⟨head, later.filterMap Segment.ofPiece?⟩

/-- The template of a pattern that is text. -/
def parse (pattern : String) : Template := compile (Bytes.ofText pattern)

/-- The template with `text c` in place of every code `c`. -/
def fill (text : Code → Bytes) (t : Template) : Bytes := t.head ++ t.segments.flatMap (·.fill text)

/-- Whether there is nothing to copy and nothing to fill in. -/
def isEmpty (t : Template) : Bool := t.head.isEmpty && t.segments.isEmpty

/-- Whether some code shows the calendar or the clock. -/
def showsTime (t : Template) : Bool := t.segments.any fun s ↦ s.code.any Code.showsTime

/-! ## From templates back to patterns -/

/-- The templates that compiling can give: nothing that is copied holds a percent sign, and a
segment without a code has something to copy. -/
def Canonical (t : Template) : Prop :=
  percent ∉ t.head ∧ ∀ s ∈ t.segments, percent ∉ s.tail ∧ (s.code = none → s.tail ≠ [])

instance (t : Template) : Decidable t.Canonical := by
  unfold Canonical
  infer_instance

/-- A pattern for the template.  `filler` stands for the codes that are missing. -/
def toPattern (filler : UInt8) (t : Template) : Bytes :=
  t.head ++ t.segments.flatMap fun s ↦ percent :: (s.code.map Code.byte).getD filler :: s.tail

end Template
end Logline
