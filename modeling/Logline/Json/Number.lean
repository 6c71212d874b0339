/-!
# Numbers in a document

A number without a fraction and an exponent is kept as an integer as long as it fits into 64 bits,
with or without a sign.  Every other number is a floating-point number.

## What is here

* `Number` — the two kinds of number.
* `Numeral` — the written parts of a number; `Numeral.read?` is its grammar.
* `Numeral.toNumber?` — the number that a numeral stands for.  It has none when it is too large for
  a floating-point number; one that is too small for it is zero.
-/

set_option autoImplicit false
namespace Logline
namespace Json

/-- A number of a document. -/
inductive Number where
  | integer (n : Int)
  | float (x : Float)

/-- Whether a number is zero; a floating-point zero has either sign. -/
def Number.isZero : Number → Bool
  | .integer n => n == 0
  | .float x => x == 0

/-! ## Written numbers -/

/-- The parts of a written number. -/
structure Numeral where
  negative : Bool
  whole : List Char
  fraction : Option (List Char)
  exponent : Option Int

namespace Numeral

/-- The exponent after its letter: a sign or none, and at least one digit. -/
def readExponent? (cs : List Char) : Option Int :=
  let (negative, ds) := match cs with
    | '-' :: rest => (true, rest)
    | '+' :: rest => (false, rest)
    | _ => (false, cs)
  if ds ≠ [] ∧ ds.all Char.isDigit then
    let n : Int := Nat.ofDigitChars 10 ds 0
    some (if negative then -n else n)
  else none

/-- What comes after the whole part: a fraction of at least one digit or none, then an exponent or
none. -/
def readRest? (cs : List Char) : Option (Option (List Char) × Option Int) :=
  let (fraction, rest) := match cs with
    | '.' :: ds => (some (ds.takeWhile Char.isDigit), ds.dropWhile Char.isDigit)
    | _ => (none, cs)
  if fraction = some [] then none
  else match rest with
    | [] => some (fraction, none)
    | c :: exponent =>
      if c = 'e' ∨ c = 'E' then (readExponent? exponent).map fun e ↦ (fraction, some e) else none

/-- The parts of a number: a minus sign or none, digits that do not start with a superfluous zero,
and what comes after them. -/
def read? (cs : List Char) : Option Numeral :=
  let (negative, body) := match cs with
    | '-' :: rest => (true, rest)
    | _ => (false, cs)
  let whole := body.takeWhile Char.isDigit
  if whole = [] ∨ whole.head? = some '0' ∧ whole ≠ ['0'] then none
  else (readRest? (body.dropWhile Char.isDigit)).map fun (fraction, exponent) ↦
    { negative, whole, fraction, exponent }

/-! ## Their values -/

/-- Reads digits onto `acc` as long as the result stays below two to the power 64; what is left
starts with the first digit that does not fit. -/
def absorb (acc : Nat) : List Char → Nat × List Char
  | [] => (acc, [])
  | c :: cs =>
    let next := Nat.ofDigitChars 10 [c] acc
    if next < 18446744073709551616 then absorb next cs else (acc, c :: cs)

/-- The largest power of ten that is a floating-point number. -/
def maxPower : Nat := 308

/-- `x` times ten to the power `exponent`, in one multiplication or division as long as the power is
a floating-point number.  Beyond that, a number other than zero is too large, and a small one is
divided by the largest power until it is in reach or zero. -/
def scale? (x : Float) (exponent : Int) : Option Float :=
  if exponent.natAbs ≤ maxPower then
    let power := Float.ofScientific 1 false exponent.natAbs
    if exponent < 0 then some (x / power)
    else if (x * power).isInf then none else some (x * power)
  else if x == 0 then some x
  else if 0 ≤ exponent then none
  else scale? (x / Float.ofScientific 1 false maxPower) (exponent + maxPower)
termination_by exponent.natAbs
decreasing_by
  simp only [maxPower] at *
  omega

/-- The number that a numeral stands for.  Digits beyond 64 bits are not looked at: those of the
whole part count for their place only, and those of the fraction not at all. -/
def toNumber? (n : Numeral) : Option Number :=
  let (whole, dropped) := absorb 0 n.whole
  let fits := dropped = [] ∧ (n.negative = true → 0 < whole ∧ whole ≤ 9223372036854775808)
  if n.fraction = none ∧ n.exponent = none ∧ fits then
    some (.integer (if n.negative then -whole else whole))
  else
    let fraction := n.fraction.getD []
    let (significand, ignored) := absorb whole fraction
    let places : Int := dropped.length - (fraction.length - ignored.length)
    (scale? (Float.ofNat significand) (places + n.exponent.getD 0)).map fun x ↦
      .float (if n.negative then -x else x)

end Numeral

/-- The number that a list of characters writes. -/
def Number.read? (cs : List Char) : Option Number := (Numeral.read? cs).bind Numeral.toNumber?

end Json
end Logline
