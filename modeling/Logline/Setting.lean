import Logline.Bytes
import Logline.Error
import Logline.Json.Reader
import Logline.Json.Writer
import Logline.Text.Blank
import Logline.Text.Lowercase

/-!
# Option values

The value of an option comes loosely typed, as a document, and is coerced to what the option needs.

## What is here

* `Setting.read?` — the value that a text writes.
* `Setting.flag` — a value as yes or no.  Numbers are yes unless they are zero, and twelve words are
  understood, blanks at the ends and case aside.
* `Setting.patternBytes` — a value as a pattern: a text, or its bytes one by one.
-/

set_option autoImplicit false
namespace Logline
namespace Setting

/-- The value that a text writes. -/
def read? (text : String) : Option Json := (Json.read? text).map Json.canonical

/-- The words for yes and no, in lower case. -/
def words : List (String × Bool) :=
  [("1", true), ("t", true), ("true", true), ("y", true), ("yes", true), ("on", true),
   ("0", false), ("f", false), ("false", false), ("n", false), ("no", false), ("off", false)]

/-- A value as yes or no.  The complaint carries a string as it was given, and any other value in
its compact form. -/
def flag : Json → Except Error Bool
  | .bool b => .ok b
  | .number n => .ok !n.isZero
  | .string s =>
    match words.lookup (Text.lower (Text.trim s)) with
    | some b => .ok b
    | none => .error (.notBool s)
  | v => .error (.notBool v.compact)

/-- The byte that an item of an array stands for. -/
def byte? : Json → Option UInt8
  | .number (.integer n) => if 0 ≤ n ∧ n < 256 then some (UInt8.ofNat n.toNat) else none
  | _ => none

/-- A value as the bytes of a pattern; `name` is the option it is for. -/
def patternBytes (name : String) : Json → Except Error Bytes
  | .string s => .ok (Bytes.ofText s)
  | .array items =>
    match items.mapM byte? with
    | some bytes => .ok bytes
    | none => .error (.badValue name)
  | _ => .error (.badValue name)

end Setting
end Logline
