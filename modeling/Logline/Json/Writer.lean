import Logline.Decimal.Shortest
import Logline.Json

/-!
# Writing a document

The compact form of a document, without a blank between its tokens.

## What is here

* `Json.floatText` — the text of a floating-point number: its shortest decimal, positional as long
  as the point is near the digits, and always with a point or an exponent.
* `Json.quoted` — a string with the escapes it needs and no others.
* `Json.compact` — the compact form.
-/

set_option autoImplicit false
namespace Logline
namespace Json

/-- The digits of an integer, behind a minus sign if it is negative. -/
def integerText (n : Int) : List Char :=
  if n < 0 then '-' :: Nat.toDigits 10 n.natAbs else Nat.toDigits 10 n.natAbs

/-- The digits of a decimal.  The point is written at its place, with at least one digit on either
side, if it is at most 16 places to the right or 5 to the left of the first digit; otherwise it
stands behind the first digit, with an exponent that always has a sign. -/
def decimalText (digits : List Char) (point : Int) : List Char :=
  let zeros (n : Int) := List.replicate n.toNat '0'
  if digits.length ≤ point ∧ point ≤ 16 then digits ++ zeros (point - digits.length) ++ ['.', '0']
  else if 0 < point ∧ point ≤ 16 then digits.take point.toNat ++ '.' :: digits.drop point.toNat
  else if -5 < point ∧ point ≤ 0 then '0' :: '.' :: zeros (-point) ++ digits
  else
    let exponent := point - 1
    let sign := if exponent < 0 then '-' else '+'
    let fraction := if digits.length ≤ 1 then [] else '.' :: digits.drop 1
    digits.take 1 ++ fraction ++ 'e' :: sign :: Nat.toDigits 10 exponent.natAbs

/-- The text of a floating-point number. -/
def floatText (x : Float) : List Char :=
  let d := Decimal.shortest x
  let text := decimalText d.digits d.point
  if d.negative then '-' :: text else text

/-- The text of a number. -/
def numberText : Number → List Char
  | .integer n => integerText n
  | .float x => floatText x

/-- A character of a string: quotation marks, backslashes and control characters are escaped. -/
def quotedChar (c : Char) : List Char :=
  match c with
  | '"' => ['\\', '"']
  | '\\' => ['\\', '\\']
  | '\x08' => ['\\', 'b']
  | '\x0C' => ['\\', 'f']
  | '\n' => ['\\', 'n']
  | '\r' => ['\\', 'r']
  | '\t' => ['\\', 't']
  | _ =>
    if c.toNat < 0x20 then
      ['\\', 'u', '0', '0', Nat.digitChar (c.toNat / 16), Nat.digitChar (c.toNat % 16)]
    else [c]

/-- A string in quotation marks. -/
def quoted (s : String) : List Char := '"' :: s.toList.flatMap quotedChar ++ ['"']

mutual

/-- The characters of the compact form. -/
def chars : Json → List Char
  | null => "null".toList
  | bool b => if b then "true".toList else "false".toList
  | number n => numberText n
  | string s => quoted s
  | array items => '[' :: itemChars true items ++ [']']
  | object members => '\x7b' :: memberChars true members ++ ['\x7d']

/-- The items of an array, with a comma in front of each but the first. -/
def itemChars (first : Bool) : List Json → List Char
  | [] => []
  | v :: rest => (if first then [] else [',']) ++ chars v ++ itemChars false rest

/-- The members of an object, with a comma in front of each but the first. -/
def memberChars (first : Bool) : List (String × Json) → List Char
  | [] => []
  | (k, v) :: rest =>
    (if first then [] else [',']) ++ quoted k ++ ':' :: chars v ++ memberChars false rest

end

/-- The compact form of a document. -/
def compact (v : Json) : String := String.ofList (chars v)

end Json
end Logline
