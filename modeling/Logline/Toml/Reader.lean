import Logline.Toml.Document
import Logline.Toml.Scalar

/-!
# Reading a configuration document

## What is here

* `Toml.value` — a value, with at most so many arrays and inline tables around its innermost one.
* `Toml.line` — a line of a document: a header, a value under a path, a comment or nothing.
* `Toml.read?` — the entries of a document.
* `Toml.maxDepth` — how many arrays and inline tables may be open at once.
-/

set_option autoImplicit false
namespace Logline
namespace Toml

/-! ## Values -/

/-- The items of an array behind its opening bracket, up to the closing one.  A comma may stand
behind the last item, and line ends and comments anywhere between. -/
def itemsOf (item : Scan Value) : Scan (List Value) := do
  Scan.between
  if ← Scan.looksAt "]" then Scan.char ']'; pure []
  else
    Scan.loop (fun read ↦ do
      let v ← item
      Scan.between
      match ← Scan.peek? with
      | some ',' =>
        Scan.char ','
        Scan.between
        if ← Scan.looksAt "]" then Scan.char ']'; pure (.inr (v :: read).reverse)
        else pure (.inl (v :: read))
      | _ => Scan.char ']'; pure (.inr (v :: read).reverse)) []

/-- An equals sign and a value, with blanks around them. -/
def assigned (item : Scan Value) : Scan Value := do
  Scan.char '='
  Scan.spaces
  item

/-- The entries of an inline table behind its opening brace, up to the closing one, on one line and
without a comma behind the last one. -/
def entriesOf (item : Scan Value) : Scan Entries := do
  Scan.spaces
  if ← Scan.looksAt "\x7d" then Scan.char '\x7d'; pure []
  else
    Scan.loop (fun (entries : Entries) ↦ do
      let path ← Text.path
      let v ← assigned item
      Scan.spaces
      let entries ← StateT.lift (entries.addValue path v)
      match ← Scan.peek? with
      | some ',' => Scan.char ','; pure (.inl entries)
      | _ => Scan.char '\x7d'; pure (.inr entries)) []

/-- A value that opens at most so many arrays and inline tables inside one another. -/
def value : Nat → Scan Value
  | 0 => Scalar.value
  | depth + 1 => do
    match ← Scan.peek? with
    | some '[' => do
      Scan.char '['
      let items ← itemsOf (value depth)
      pure (.array items)
    | some '\x7b' => do
      Scan.char '\x7b'
      let entries ← entriesOf (value depth)
      pure (.table (Node.toEntries entries))
    | _ => Scalar.value

/-- No document opens more arrays and inline tables inside one another. -/
def maxDepth : Nat := 79

/-! ## Lines -/

/-- A header, in single or double brackets. -/
def header (d : Document) : Scan Document := do
  if ← Scan.looksAt "[[" then
    Scan.exact "[["
    let path ← Text.path
    Scan.exact "]]"
    Scan.restOfLine
    StateT.lift (d.addItem path)
  else
    Scan.char '['
    let path ← Text.path
    Scan.char ']'
    Scan.restOfLine
    StateT.lift (d.addTable path)

/-- A value under a path. -/
def entry (d : Document) : Scan Document := do
  let path ← Text.path
  let v ← assigned (value maxDepth)
  Scan.restOfLine
  StateT.lift (d.addValue path v)

/-- One line, or the end of the document. -/
def line (d : Document) : Scan (Document ⊕ Document) := do
  Scan.spaces
  match ← Scan.peek? with
  | none => pure (.inr d)
  | some '#' => Scan.restOfLine; pure (.inl d)
  | some '\n' | some '\r' => Scan.newline; pure (.inl d)
  | some '[' => .inl <$> header d
  | some _ => .inl <$> entry d

/-- The text without a byte order mark in front. -/
def dropMark : List Char → List Char
  | c :: rest => if c.toNat = 0xFEFF then rest else c :: rest
  | [] => []

/-- The entries of the document that a text holds. -/
def read? (s : String) : Option (List (String × Value)) :=
  (Scan.loop line .empty (dropMark s.toList)).map fun (d, _) ↦ Node.toEntries d.entries

end Toml
end Logline
