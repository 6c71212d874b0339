/-!
# Shortest decimals

A floating-point number stands for an interval of reals, those that round to it.  Its shortest
decimal is the one with the fewest digits in that interval and, among those, the one nearest to
the number itself.

## What is here

* `Decimal` — digits and the place of the decimal point.
* `Decimal.shortest` — the shortest decimal of a finite number.  For one digit, two digits and so
  on, it tries the two neighbours of the number on that decimal grid, in exact arithmetic.
-/

set_option autoImplicit false
namespace Logline

/-- The decimal `0.d₁d₂d₃…` times ten to the power `point`, with a sign. -/
structure Decimal where
  negative : Bool
  digits : List Char
  point : Int
  deriving DecidableEq, Repr

namespace Decimal

/-! ## The interval of a number -/

/-- A number and the ends of its interval, as fractions over one denominator. -/
structure Interval where
  low : Nat
  mid : Nat
  high : Nat
  unit : Nat
  /-- Whether the ends round to the number as well. -/
  closed : Bool

/-- The interval of `mantissa` times two to the power `exponent`.  The neighbour below a power of
two is half as far away as the one above.  The ends are half-way points, and half-way goes to the
even mantissa. -/
def Interval.ofParts (mantissa : Nat) (exponent : Int) : Interval :=
  let below := if mantissa = 4503599627370496 ∧ -1074 < exponent then 1 else 2
  let scale := Nat.pow 2 (exponent - 2).toNat
  { low := (4 * mantissa - below) * scale
    mid := 4 * mantissa * scale
    high := (4 * mantissa + 2) * scale
    unit := Nat.pow 2 (2 - exponent).toNat
    closed := mantissa % 2 = 0 }

/-- The interval with its ends times ten to the power `k`. -/
def Interval.shift (i : Interval) (k : Int) : Interval :=
  let up := Nat.pow 10 k.toNat
  { i with
    low := i.low * up
    mid := i.mid * up
    high := i.high * up
    unit := i.unit * Nat.pow 10 (-k).toNat }

/-- The integer next to the number, if it is in the interval: the one below or the one above,
whichever is nearer, and the even one of two that are equally near. -/
def Interval.integer? (i : Interval) : Option Nat :=
  let below := i.mid / i.unit
  let rest := i.mid % i.unit
  let inside (low high : Nat) : Bool := if i.closed then low ≤ high else low < high
  let belowIn := inside i.low (below * i.unit)
  let aboveIn := inside ((below + 1) * i.unit) i.high
  if belowIn && aboveIn then
    if 2 * rest < i.unit ∨ 2 * rest = i.unit ∧ below % 2 = 0 then some below else some (below + 1)
  else if belowIn then some below
  else if aboveIn then some (below + 1)
  else none

/-! ## The search -/

/-- A list of digits without the zeros at its end. -/
def trimZeros (ds : List Char) : List Char := (ds.reverse.dropWhile (· = '0')).reverse

/-- The place of the decimal point in front of the first digit of a number that is not as small as
ten to the power `-places`. -/
def firstPlace (i : Interval) (places : Nat) : Int :=
  (Nat.toDigits 10 (i.mid * Nat.pow 10 places / i.unit)).length - places

/-- The place of the decimal point in front of the first digit of the number.  No number is as small
as ten to the power -400. -/
def magnitude (i : Interval) : Int := firstPlace i 400

/-- The first grid, of `count` digits or more, that has a point in the interval. -/
def search (i : Interval) (point : Int) : (tries count : Nat) → List Char × Int
  | 0, _ => ([], point)
  | tries + 1, count =>
    match (i.shift (count - point)).integer? with
    | some n =>
      let ds := Nat.toDigits 10 n
      (trimZeros ds, point + ds.length - count)
    | none => search i point tries (count + 1)

/-- The most digits that a number needs. -/
def maxDigits : Nat := 17

/-- The shortest decimal of a finite number.  Zero has the single digit 0. -/
def shortest (x : Float) : Decimal :=
  -- a bit for the sign, eleven for the exponent, 52 for the fraction
  let bits := x.toBits.toNat
  let negative := decide (9223372036854775808 ≤ bits)
  let field : Nat := bits / 4503599627370496 % 2048
  let fraction : Nat := bits % 4503599627370496
  if field = 0 ∧ fraction = 0 then ⟨negative, ['0'], 1⟩
  else
    let i :=
      if field = 0 then Interval.ofParts fraction (-1074)
      else Interval.ofParts (4503599627370496 + fraction) ((field : Int) - 1075)
    let (digits, point) := search i (magnitude i) maxDigits 1
    ⟨negative, digits, point⟩

end Decimal
end Logline
