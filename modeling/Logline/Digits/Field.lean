import Logline.Digits

/-!
# Writing a number into a field

`Digits.number` says what the digits of a number are.  This file says how they are written: from the
last one to the first, into a field of twenty bytes that is filled from its end, in the arithmetic
of a machine.  The value is a word of 64 bits, a digit is a byte, and a place in the field is an
index that counts down.  Every operation that could leave its range is checked, so a writing that
does has no result but a `Fault`.

## What is here

* `Fault`, and the checked operations (`Checked.sub`, `Checked.subWord`, …).
* `Field` — a field that is being filled; `Field.put` writes one digit in front of those that are
  there.
* `Field.fill` — the loop: digits are split off the value as long as there is more than one of them,
  or more than one is asked for.
* `Digits.write` — the number behind what a buffer already holds.
-/

set_option autoImplicit false
namespace Logline
namespace Digits

/-! ## Checked arithmetic -/

/-- How an operation of a machine leaves its range. -/
inductive Fault where
  /-- The result is below zero. -/
  | underflow
  /-- The result does not fit into its word. -/
  | overflow
  /-- The index is not one of the array. -/
  | outOfBounds
  deriving DecidableEq, Repr

namespace Checked

/-- The difference of two indices. -/
def sub (a b : Nat) : Except Fault Nat := if b ≤ a then .ok (a - b) else .error .underflow

/-- The difference of two words. -/
def subWord (a b : UInt64) : Except Fault UInt64 := if b ≤ a then .ok (a - b) else .error .underflow

/-- The product of two words. -/
def mulWord (a b : UInt64) : Except Fault UInt64 :=
  if a.toNat * b.toNat < 18446744073709551616 then .ok (a * b) else .error .overflow

/-- The sum of two bytes. -/
def addByte (a b : UInt8) : Except Fault UInt8 :=
  if a.toNat + b.toNat < 256 then .ok (a + b) else .error .overflow

/-- The array with another byte at an index. -/
def set {n : Nat} (bytes : Vector UInt8 n) (i : Nat) (b : UInt8) : Except Fault (Vector UInt8 n) :=
  if h : i < n then .ok (bytes.set i b) else .error .outOfBounds

/-- The bytes from an index on. -/
def drop {n : Nat} (bytes : Vector UInt8 n) (i : Nat) : Except Fault Bytes :=
  if i ≤ n then .ok (bytes.toList.drop i) else .error .outOfBounds

end Checked

/-! ## Fields -/

/-- A field that is being filled from its end. -/
structure Field where
  bytes : Vector UInt8 maxPlaces
  /-- The index of the last digit that was written; digits stand from here on. -/
  place : Nat
  /-- What is left of the number. -/
  value : UInt64
  /-- How many digits are still asked for. -/
  width : Nat
  deriving DecidableEq, Repr

namespace Field

/-- The empty field for a number.  No more digits can be asked for than it has room for. -/
def start (value : UInt64) (width : Nat) : Field :=
  { bytes := Vector.replicate maxPlaces 0
    place := maxPlaces
    value
    width := min width maxPlaces }

/-- The field with one more digit in front. -/
def put (f : Field) (digit : UInt64) : Except Fault Field := do
  let place ← Checked.sub f.place 1
  let byte ← Checked.addByte '0'.toUInt8 digit.toUInt8
  let bytes ← Checked.set f.bytes place byte
  .ok { f with bytes, place }

/-- More than one digit is left of the number, or asked for. -/
def HasMore (f : Field) : Prop := 10 ≤ f.value ∨ 1 < f.width

instance (f : Field) : Decidable f.HasMore := by
  unfold HasMore
  infer_instance

/-- The field with the last digit of its number in front. -/
def putLast (f : Field) : Except Fault Field := do
  let tens ← Checked.mulWord (f.value / 10) 10
  let digit ← Checked.subWord f.value tens
  f.put digit

/-- A number and a width of which there is more than one digit to write get smaller with the digit
that is written. -/
theorem HasMore.lt {f : Field} (h : f.HasMore) :
    (f.value / 10).toNat + (f.width - 1) < f.value.toNat + f.width := by
  rw [HasMore, UInt64.le_iff_toNat_le] at h
  rw [UInt64.toNat_div]
  show f.value.toNat / 10 + (f.width - 1) < f.value.toNat + f.width
  have hten : 10 ≤ f.value.toNat ∨ 1 < f.width := h
  omega

/-- The field with all digits of its number but the first. -/
def fill (f : Field) : Except Fault Field :=
  if _ : f.HasMore then do
    let g ← f.putLast
    fill { g with value := f.value / 10, width := f.width - 1 }
  else .ok f
termination_by f.value.toNat + f.width
decreasing_by exact HasMore.lt ‹f.HasMore›

/-- The digits of a field, with what is left of the number as the first one. -/
def finish (f : Field) : Except Fault Bytes := do
  let g ← f.put f.value
  Checked.drop g.bytes g.place

end Field

/-- A number behind the bytes that `buf` holds, padded on the left with zeros to `width` digits. -/
def write (buf : Bytes) (value : UInt64) (width : Nat) : Except Fault Bytes := do
  let f ← (Field.start value width).fill
  let digits ← f.finish
  .ok (buf ++ digits)

end Digits
end Logline
