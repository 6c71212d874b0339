import Logline.Bytes

/-!
# Decimal fields

The digits of a rendered line.  A *number* is written with as many digits as it needs and padded
on the left with zeros up to a width; a *pair* is always two bytes, one for the tens and one for
the ones, and three or four pairs with a separator make a clock or a date.

## What is here

* `Digits.number` — a number padded to a width, in a field of at most twenty places.
* `Digits.pair` — two bytes.  The tens are not reduced below ten: a component of a hundred or more
  spills into the bytes after `'9'` and wraps around there, and never takes a third byte.
* `Digits.triple` and `Digits.date` — `AA:BB:CC` and `CCYY-MM-DD` with any separator.
* `Digits.append…` — the same three, written behind what a buffer already holds.
* `Digits.value?` — reads decimal digits back.
-/

set_option autoImplicit false
namespace Logline
namespace Digits

/-- The ASCII digit for the ones of `n`. -/
def ones (n : Nat) : UInt8 := UInt8.ofNat (48 + n % 10)

/-- The byte for the tens of `n`, counted on from `'0'` and wrapping around after 255. -/
def tens (n : Nat) : UInt8 := UInt8.ofNat (48 + n / 10)

/-! ## Numbers -/

/-- The digits of `n`, at least `width` of them and at least one, as far as `places` reach. -/
def fill : (places n width : Nat) → Bytes
  | 0, _, _ => []
  | places + 1, n, width =>
    if n < 10 ∧ width ≤ 1 then [ones n] else fill places (n / 10) (width - 1) ++ [ones n]

/-- No number has more places than this, and no padding goes beyond it. -/
def maxPlaces : Nat := 20

/-- `n` in decimal, padded on the left with zeros to `width` digits; a width above `maxPlaces`
counts as `maxPlaces`.  Twenty places hold every 64-bit number. -/
def number (n width : Nat) : Bytes := fill maxPlaces n (min width maxPlaces)

/-- The number that a string of ASCII digits writes, read onto `acc`. -/
def valueFrom? (acc : Nat) : Bytes → Option Nat
  | [] => some acc
  | b :: rest => if 48 ≤ b ∧ b ≤ 57 then valueFrom? (10 * acc + (b.toNat - 48)) rest else none

/-- The number that a non-empty string of ASCII digits writes. -/
def value? : Bytes → Option Nat
  | [] => none
  | b :: rest => valueFrom? 0 (b :: rest)

/-! ## Pairs -/

/-- The tens and the ones of `n`, always two bytes. -/
def pair (n : Nat) : Bytes := [tens n, ones n]

@[simp] theorem length_pair (n : Nat) : (pair n).length = 2 := rfl

/-- Three pairs with a separator between them. -/
def triple (a b c : Nat) (sep : UInt8) : Bytes := pair a ++ sep :: pair b ++ sep :: pair c

@[simp] theorem length_triple (a b c : Nat) (sep : UInt8) : (triple a b c sep).length = 8 := rfl

/-- A century and a year in it, then two pairs, each with a separator in front. -/
def date (cc yy mm dd : Nat) (sep : UInt8) : Bytes :=
  pair cc ++ pair yy ++ sep :: pair mm ++ sep :: pair dd

@[simp] theorem length_date (cc yy mm dd : Nat) (sep : UInt8) :
    (date cc yy mm dd sep).length = 10 := rfl

/-! ## Writing behind a buffer -/

/-- `number` behind the bytes that `buf` holds. -/
def appendNumber (buf : Bytes) (n width : Nat) : Bytes := buf ++ number n width

/-- `triple` behind the bytes that `buf` holds. -/
def appendTriple (buf : Bytes) (a b c : Nat) (sep : UInt8) : Bytes := buf ++ triple a b c sep

/-- `date` behind the bytes that `buf` holds. -/
def appendDate (buf : Bytes) (cc yy mm dd : Nat) (sep : UInt8) : Bytes :=
  buf ++ date cc yy mm dd sep

end Digits
end Logline
