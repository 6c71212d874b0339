import Logline.Json

/-!
# Tokens

The first half of reading a document: its characters, one after the other, become tokens.

## What is here

* `Token` — punctuation and scalars.
* `Mode` — what the reader is in the middle of: blanks, a word, a number, or some place in a string.
* `Mode.step` — what one character does; `Token.read?` runs it over a text.
-/

set_option autoImplicit false
namespace Logline
namespace Json

/-- A token of a document. -/
inductive Token where
  | openArray
  | closeArray
  | openObject
  | closeObject
  | comma
  | colon
  /-- A value without parts. -/
  | scalar (v : Json)
  /-- A string, which may be a value or a key. -/
  | text (s : String)

/-- What the reader is in the middle of.  Lists of characters are in reverse. -/
inductive Mode where
  /-- Between tokens. -/
  | blank
  /-- In a word of small letters. -/
  | word (read : List Char)
  | number (read : List Char)
  /-- In a string. -/
  | text (read : List Char)
  /-- Behind a backslash in a string. -/
  | escape (read : List Char)
  /-- In the four digits of an escape; `high` is the half of a pair that came before it. -/
  | unit (read : List Char) (high : Option Nat) (digits : List Char)
  /-- Behind the first half of a pair, where a backslash must follow. -/
  | low (read : List Char) (high : Nat)
  /-- Behind that backslash, where the letter of an escape must follow. -/
  | lowEscape (read : List Char) (high : Nat)

/-- The scalar that a word stands for. -/
def scalarOfWord? (cs : List Char) : Option Json :=
  if cs = "null".toList then some .null
  else if cs = "true".toList then some (.bool true)
  else if cs = "false".toList then some (.bool false)
  else none

/-- The character that a letter behind a backslash stands for. -/
def escaped? : Char → Option Char
  | '"' => some '"'
  | '\\' => some '\\'
  | '/' => some '/'
  | 'b' => some '\x08'
  | 'f' => some '\x0C'
  | 'n' => some '\n'
  | 'r' => some '\r'
  | 't' => some '\t'
  | _ => none

/-- The value of a hexadecimal digit. -/
def hexDigit? (c : Char) : Option Nat :=
  if '0' ≤ c ∧ c ≤ '9' then some (c.toNat - '0'.toNat)
  else if 'a' ≤ c ∧ c ≤ 'f' then some (c.toNat - 'a'.toNat + 10)
  else if 'A' ≤ c ∧ c ≤ 'F' then some (c.toNat - 'A'.toNat + 10)
  else none

/-- The number that hexadecimal digits write. -/
def hexValue? (cs : List Char) : Option Nat :=
  cs.foldlM (fun acc c ↦ (hexDigit? c).map (16 * acc + ·)) 0

namespace Mode

/-- What a character between tokens does. -/
def start (c : Char) : Option (List Token × Mode) :=
  match c with
  | ' ' | '\n' | '\t' | '\r' => some ([], blank)
  | '[' => some ([.openArray], blank)
  | ']' => some ([.closeArray], blank)
  | '\x7b' => some ([.openObject], blank)
  | '\x7d' => some ([.closeObject], blank)
  | ',' => some ([.comma], blank)
  | ':' => some ([.colon], blank)
  | '"' => some ([], text [])
  | _ =>
    if c = '-' ∨ c.isDigit then some ([], number [c])
    else if c.isLower then some ([], word [c])
    else none

/-- The tokens that a mode owes when nothing more belongs to it. -/
def finish : Mode → Option (List Token)
  | blank => some []
  | word read => (scalarOfWord? read.reverse).map fun v ↦ [.scalar v]
  | number read => (Number.read? read.reverse).map fun n ↦ [.scalar (.number n)]
  | _ => none

/-- A character that ends a mode: the tokens it owes, and what the character starts. -/
def next (m : Mode) (c : Char) : Option (List Token × Mode) := do
  let owed ← m.finish
  let (tokens, mode) ← start c
  some (owed ++ tokens, mode)

/-- The end of a four-digit escape.  Half of a pair stands for nothing on its own: a first half
waits for the second, and a second half must have had a first. -/
def closeUnit (read : List Char) (high : Option Nat) (value : Nat) : Option (List Token × Mode) :=
  match high with
  | none =>
    if 0xD800 ≤ value ∧ value < 0xDC00 then some ([], low read value)
    else if 0xDC00 ≤ value ∧ value < 0xE000 then none
    else some ([], text (Char.ofNat value :: read))
  | some h =>
    if 0xDC00 ≤ value ∧ value < 0xE000 then
      some ([], text (Char.ofNat (0x10000 + 0x400 * (h - 0xD800) + (value - 0xDC00)) :: read))
    else none

/-- What a character does: the tokens that it completes, and the mode after it. -/
def step (m : Mode) (c : Char) : Option (List Token × Mode) :=
  match m with
  | blank => start c
  | word read => if c.isLower then some ([], word (c :: read)) else m.next c
  | number read =>
    if c.isDigit ∨ c = '.' ∨ c = 'e' ∨ c = 'E' ∨ c = '+' ∨ c = '-' then
      some ([], number (c :: read))
    else m.next c
  | text read =>
    if c = '"' then some ([.text (String.ofList read.reverse)], blank)
    else if c = '\\' then some ([], escape read)
    else if c.toNat < 0x20 then none
    else some ([], text (c :: read))
  | escape read =>
    if c = 'u' then some ([], unit read none [])
    else (escaped? c).map fun d ↦ ([], text (d :: read))
  | unit read high digits =>
    if digits.length < 3 then some ([], unit read high (c :: digits))
    else (hexValue? (c :: digits).reverse).bind (closeUnit read high)
  | low read high => if c = '\\' then some ([], lowEscape read high) else none
  | lowEscape read high => if c = 'u' then some ([], unit read (some high) []) else none

end Mode

/-- The tokens of the characters from a mode on. -/
def Token.readFrom? (m : Mode) : List Char → Option (List Token)
  | [] => m.finish
  | c :: rest => do
    let (tokens, mode) ← m.step c
    let later ← readFrom? mode rest
    some (tokens ++ later)

/-- The tokens of a text. -/
def Token.read? (s : String) : Option (List Token) := readFrom? .blank s.toList

end Json
end Logline
