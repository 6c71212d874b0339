import Logline.Timestamp
import Logline.Zone

/-!
# Reading a written time

A line with a date, a time of day and an offset tells at which microsecond its record was made.
This file reads such a text back, field by field, by the calendar alone.

## What is here

* `Bytes.skip?` and `Digits.take?` — one given byte, and a number of so many digits, off the front
  of a byte string.
* `Moment.read?` — the fields of a text like `2006-01-02T15:04:05.000000`.
* `Instant.read?` — the instant that the fields and the offset behind them stand for.
-/

set_option autoImplicit false
namespace Logline

/-- The bytes behind a given one. -/
def Bytes.skip? (c : UInt8) : Bytes → Option Bytes
  | [] => none
  | b :: rest => if b = c then some rest else none

/-- The number that the first `count` bytes write, and the bytes behind them. -/
def Digits.take? (count : Nat) (b : Bytes) : Option (Nat × Bytes) :=
  if count ≤ b.length then (Digits.value? (b.take count)).map (·, b.drop count) else none

namespace Moment

/-- The fields that a calendar and a clock can show. -/
def Valid (m : Moment) : Prop :=
  Date.Valid ⟨m.year, m.month, m.day⟩ ∧ m.hour < 24 ∧ m.minute < 60 ∧ m.second < 60 ∧
  m.micro < 1000000

instance (m : Moment) : Decidable m.Valid := by
  unfold Valid
  infer_instance

/-- The fields that a text writes, and the bytes behind it. -/
def read? (text : Bytes) : Option (Moment × Bytes) := do
  let (year, text) ← Digits.take? 4 text
  let text ← Bytes.skip? '-'.toUInt8 text
  let (month, text) ← Digits.take? 2 text
  let text ← Bytes.skip? '-'.toUInt8 text
  let (day, text) ← Digits.take? 2 text
  let text ← Bytes.skip? 'T'.toUInt8 text
  let (hour, text) ← Digits.take? 2 text
  let text ← Bytes.skip? ':'.toUInt8 text
  let (minute, text) ← Digits.take? 2 text
  let text ← Bytes.skip? ':'.toUInt8 text
  let (second, text) ← Digits.take? 2 text
  let text ← Bytes.skip? '.'.toUInt8 text
  let (micro, text) ← Digits.take? 6 text
  let m : Moment := { year, month, day, hour, minute, second, micro }
  if m.Valid then some (m, text) else none

end Moment

/-- A point in time, to the microsecond. -/
structure Instant where
  /-- Seconds since the start of 1970 in universal time. -/
  second : Int
  micro : Nat
  deriving DecidableEq, Repr

/-- The instant of a stamp.  What a leap second counts beyond its second does not show. -/
def Timestamp.instant (t : Timestamp) : Instant := ⟨t.second, t.nano % 1000000000 / 1000⟩

/-- The instant that a text writes: the fields of a clock, and its offset behind them. -/
def Instant.read? (text : Bytes) : Option Instant := do
  let (m, zone) ← Moment.read? text
  let offset ← Offset.read? zone
  some ⟨m.toSecond - offset, m.micro⟩

example : Instant.read? (Bytes.ofText "1970-01-01T00:00:01.000002Z") = some ⟨1, 2⟩ := by decide
example : Instant.read? (Bytes.ofText "2000-02-29T12:30:00.500000+05:30") =
    some ⟨951807600, 500000⟩ := by decide
example : Instant.read? (Bytes.ofText "2001-02-29T00:00:00.000000Z") = none := by decide

end Logline
