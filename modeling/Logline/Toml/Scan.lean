/-!
# Scanning

A scan takes characters off the front of a text, or fails.  It can be tried: where it fails,
another one starts from the same place.

## What is here

* `Scan`, with the scans for a character, for characters of a kind and for a fixed text.
* `Scan.loop` — a scan over and over, as long as it takes something.
* `Scan.written` — what a scan has taken.
* Blanks, line ends and comments, which are the same everywhere in a document.
-/

set_option autoImplicit false
namespace Logline
namespace Toml

/-- A computation that takes characters off the front of a text, or fails. -/
abbrev Scan := StateT (List Char) Option

namespace Scan

/-- The next character, which stays; none at the end. -/
def peek? : Scan (Option Char) := fun cs ↦ some (cs.head?, cs)

/-- One character of a kind. -/
def oneOf (p : Char → Bool) : Scan Char
  | c :: rest => if p c then some (c, rest) else none
  | [] => none

/-- One given character. -/
def char (c : Char) : Scan Unit := do
  let _ ← oneOf (· = c)

/-- As many characters of a kind as there are. -/
def many (p : Char → Bool) : Scan (List Char) := fun cs ↦ some (cs.takeWhile p, cs.dropWhile p)

/-- Characters of a kind, at least one. -/
def many1 (p : Char → Bool) : Scan (List Char) := do
  let cs ← many p
  if cs = [] then failure else pure cs

/-- A fixed number of characters of a kind. -/
def exactly (p : Char → Bool) : Nat → Scan (List Char)
  | 0 => pure []
  | n + 1 => do
    let c ← oneOf p
    let cs ← exactly p n
    pure (c :: cs)

/-- A fixed text. -/
def exact (text : String) : Scan Unit := fun cs ↦
  if text.toList.isPrefixOf cs then some ((), cs.drop text.length) else none

/-- Whether a text stands here; it stays. -/
def looksAt (text : String) : Scan Bool := fun cs ↦ some (text.toList.isPrefixOf cs, cs)

/-- A scan that may fail and then takes nothing. -/
def attempt {α : Type} (s : Scan α) : Scan (Option α) := (some <$> s) <|> pure none

/-- The end of the text. -/
def theEnd : Scan Unit
  | [] => some ((), [])
  | _ :: _ => none

/-- The characters that a scan takes. -/
def written {α : Type} (s : Scan α) : Scan String := fun cs ↦
  (s cs).map fun (_, rest) ↦ (String.ofList (cs.take (cs.length - rest.length)), rest)

/-- A step, at most so many times, until it gives a result. -/
def loopFor {σ β : Type} (step : σ → Scan (σ ⊕ β)) : (times : Nat) → σ → Scan β
  | 0, _ => failure
  | times + 1, s => do
    match ← step s with
    | .inl s' => loopFor step times s'
    | .inr b => pure b

/-- A step over and over, until it gives a result.  A step that gives none takes at least one
character, so there is no need for more steps than characters and one. -/
def loop {σ β : Type} (step : σ → Scan (σ ⊕ β)) (s : σ) : Scan β := fun cs ↦
  loopFor step (cs.length + 1) s cs

/-! ## Blanks, line ends and comments -/

/-- Spaces and tabs. -/
def isSpace (c : Char) : Bool := c = ' ' || c = '\t'

/-- The characters that may stand anywhere in a comment or a string: all but the control characters,
of which the tab is allowed. -/
def isPlain (c : Char) : Bool := c = '\t' || (0x20 ≤ c.toNat && c.toNat ≠ 0x7F)

/-- Spaces and tabs, or nothing. -/
def spaces : Scan Unit := do
  let _ ← many isSpace

/-- A line end: a line feed, or a carriage return and a line feed. -/
def newline : Scan Unit := exact "\n" <|> exact "\r\n"

/-- A comment, up to the end of its line. -/
def comment : Scan Unit := do
  char '#'
  let _ ← many isPlain

/-- The end of a line or of the text. -/
def lineEnd : Scan Unit := newline <|> theEnd

/-- What may follow on a line that says something: a comment or nothing. -/
def restOfLine : Scan Unit := do
  spaces
  let _ ← attempt comment
  lineEnd

/-- Blanks, comments and line ends between the items of an array. -/
def between : Scan Unit :=
  loop (fun _ ↦ do
    spaces
    match ← peek? with
    | some '#' => comment; pure (.inl ())
    | some '\n' | some '\r' => newline; pure (.inl ())
    | _ => pure (.inr ())) ()

end Scan
end Toml
end Logline
