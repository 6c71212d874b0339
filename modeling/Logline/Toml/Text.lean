import Logline.Toml.Scan

/-!
# Strings and keys

Strings come in four kinds: with escapes or without, and on one line or on several.  A key is a bare
word or a string on one line, and a path is made of keys with points between them.

## What is here

* `Text.basic`, `Text.literal` and their forms over several lines, `Text.basicLines` and
  `Text.literalLines`; `Text.string` is any of them.
* `Text.key` and `Text.path`.
* `Text.maxKeys` — how many keys a path may have.
-/

set_option autoImplicit false
namespace Logline
namespace Toml
namespace Text

/-! ## Escapes -/

/-- The character that a letter behind a backslash stands for. -/
def escaped? : Char → Option Char
  | '"' => some '"'
  | '\\' => some '\\'
  | 'b' => some '\x08'
  | 't' => some '\t'
  | 'n' => some '\n'
  | 'f' => some '\x0C'
  | 'r' => some '\r'
  | _ => none

/-- The value of a hexadecimal digit. -/
def hexValue (c : Char) : Nat :=
  if c.isDigit then c.toNat - '0'.toNat else c.toLower.toNat - 'a'.toNat + 10

/-- The character that hexadecimal digits stand for, if it is one. -/
def charOfHex? (ds : List Char) : Option Char :=
  let n := ds.foldl (fun acc d ↦ 16 * acc + hexValue d) 0
  if ds.all Char.isHexDigit ∧ n.isValidChar then some (Char.ofNat n) else none

/-- The character of an escape, behind its backslash. -/
def escape : Scan Char := do
  let c ← Scan.oneOf fun _ ↦ true
  if c = 'u' ∨ c = 'U' then
    let ds ← Scan.exactly Char.isHexDigit (if c = 'u' then 4 else 8)
    StateT.lift (charOfHex? ds)
  else StateT.lift (escaped? c)

/-! ## Strings on one line -/

/-- A run of characters that stand for themselves, up to a mark or a backslash. -/
def plainRun (mark : Char) : Scan (List Char) :=
  Scan.many fun c ↦ Scan.isPlain c && c ≠ mark && c ≠ '\\'

/-- One step in a string with escapes, behind its opening quotation mark: a run of characters, and
the escape or the quotation mark behind it.  Characters are collected in reverse. -/
def basicStep (read : List Char) : Scan (List Char ⊕ String) := do
  let run ← plainRun '"'
  let read := run.reverse ++ read
  let c ← Scan.oneOf Scan.isPlain
  if c = '"' then pure (.inr (String.ofList read.reverse))
  else do
    let d ← escape
    pure (.inl (d :: read))

/-- A string with escapes. -/
def basic : Scan String := do
  Scan.char '"'
  Scan.loop basicStep []

/-- A string without escapes. -/
def literal : Scan String := do
  Scan.char '\''
  let cs ← Scan.many fun c ↦ Scan.isPlain c && c ≠ '\''
  Scan.char '\''
  pure (String.ofList cs)

/-! ## Strings over several lines -/

/-- The end of a string over several lines: three quotation marks, and one or two in front of them
that still belong to the string.  Otherwise one quotation mark that belongs to it. -/
def marks (mark : Char) (read : List Char) : Scan (List Char ⊕ String) := do
  let ms ← Scan.many1 (· = mark)
  if ms.length < 3 then pure (.inl (ms ++ read))
  else if ms.length ≤ 5 then pure (.inr (String.ofList (ms.drop 3 ++ read).reverse))
  else failure

/-- A line end that belongs to a string; it always stands for a line feed. -/
def lineFeed (read : List Char) : Scan (List Char ⊕ String) := do
  Scan.newline
  pure (.inl ('\n' :: read))

/-- A backslash at the end of a line: it stands for nothing, and neither do the blanks and line ends
behind it. -/
def continuation : Scan Unit := do
  Scan.char '\\'
  Scan.spaces
  Scan.newline
  Scan.loop (fun _ ↦ do
    Scan.spaces
    match ← Scan.peek? with
    | some '\n' | some '\r' => Scan.newline; pure (.inl ())
    | _ => pure (.inr ())) ()

/-- One step in a string with escapes over several lines: a run of characters, and what stands
behind it. -/
def basicLinesStep (read : List Char) : Scan (List Char ⊕ String) := do
  let run ← plainRun '"'
  let read := run.reverse ++ read
  match ← Scan.peek? with
  | some '"' => marks '"' read
  | some '\\' =>
    (do continuation; pure (.inl read)) <|> (do
      Scan.char '\\'
      let d ← escape
      pure (.inl (d :: read)))
  | _ => lineFeed read

/-- One step in a string without escapes over several lines, where a backslash stands for itself. -/
def literalLinesStep (read : List Char) : Scan (List Char ⊕ String) := do
  let run ← Scan.many fun c ↦ Scan.isPlain c && c ≠ '\''
  let read := run.reverse ++ read
  match ← Scan.peek? with
  | some '\'' => marks '\'' read
  | _ => lineFeed read

/-- A string with escapes over several lines.  A line end right behind the opening marks does not
belong to it. -/
def basicLines : Scan String := do
  Scan.exact "\"\"\""
  let _ ← Scan.attempt Scan.newline
  Scan.loop basicLinesStep []

/-- A string without escapes over several lines. -/
def literalLines : Scan String := do
  Scan.exact "\x27\x27\x27"
  let _ ← Scan.attempt Scan.newline
  Scan.loop literalLinesStep []

/-- A string of any kind. -/
def string : Scan String := do
  if ← Scan.looksAt "\"\"\"" then basicLines
  else if ← Scan.looksAt "\x27\x27\x27" then literalLines
  else basic <|> literal

/-! ## Keys -/

/-- The characters of a bare key. -/
def isBare (c : Char) : Bool := c.isAlphanum || c = '_' || c = '-'

/-- A key. -/
def key : Scan String := basic <|> literal <|> String.ofList <$> Scan.many1 isBare

/-- No path has more keys. -/
def maxKeys : Nat := 79

/-- At most so many keys with points between them, each with blanks around it. -/
def pathOf : Nat → Scan (List String)
  | 0 => failure
  | n + 1 => do
    Scan.spaces
    let k ← key
    Scan.spaces
    match ← Scan.peek? with
    | some '.' => do
      Scan.char '.'
      let rest ← pathOf n
      pure (k :: rest)
    | _ => pure [k]

/-- A path of keys, with blanks around it. -/
def path : Scan (List String) := pathOf maxKeys

end Text
end Toml
end Logline
