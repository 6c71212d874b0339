import Logline.Calendar

/-!
# Timestamps

A record is stamped with an instant and with the offset of the wall clock that showed it.  The
instant counts seconds from the start of 1970 in universal time; its nanoseconds run up to two
seconds, because an instant inside a leap second stays in second 59 and counts on.

## What is here

* `earliest`, `latest` and `Representable` — the seconds that have a date in the calendar's range,
  from year -262143 to year 262142.
* `Timestamp` — an instant in that range with an offset of less than a day.  `Timestamp.ofEpoch?`
  and `Timestamp.ofLocal?` build one from a count of seconds and from a reading of the wall clock.
* `Moment` — the calendar and clock fields that a layout prints.  `Timestamp.utc` always has them;
  `Timestamp.local?` has none when the offset carries the wall clock out of the range.
-/

set_option autoImplicit false
namespace Logline

/-! ## The range of the calendar -/

/-- The first second of year -262143. -/
def earliest : Int := -8334601228800

/-- The last second of year 262142. -/
def latest : Int := 8210266876799

example : earliest = 86400 * Date.toDay ⟨-262143, 1, 1⟩ := by decide
example : latest = 86400 * Date.toDay ⟨262142, 12, 31⟩ + 86399 := by decide

/-- The seconds whose date is in the range. -/
def Representable (second : Int) : Prop := earliest ≤ second ∧ second ≤ latest

instance (second : Int) : Decidable (Representable second) := by
  unfold Representable
  infer_instance

/-! ## Calendar and clock -/

/-- Calendar and clock fields, down to the microsecond. -/
structure Moment where
  year : Int
  month : Nat
  day : Nat
  hour : Nat
  minute : Nat
  second : Nat
  micro : Nat
  deriving DecidableEq, Repr

namespace Moment

/-- The fields of a template that shows none of them. -/
def zero : Moment := ⟨0, 0, 0, 0, 0, 0, 0⟩

/-- The fields at a second since 1970 and so many nanoseconds into it.  Whole seconds among the
nanoseconds do not show, and what is left is cut, not rounded, to microseconds. -/
def ofSecond (second : Int) (nano : Nat) : Moment :=
  let date := Date.ofDay (second / 86400)
  let inDay := (second % 86400).toNat
  { year := date.year
    month := date.month
    day := date.day
    hour := inDay / 3600
    minute := inDay / 60 % 60
    second := inDay % 60
    micro := nano % 1000000000 / 1000 }

/-- The second since 1970 that the fields show. -/
def toSecond (m : Moment) : Int :=
  86400 * Date.toDay ⟨m.year, m.month, m.day⟩ + 3600 * m.hour + 60 * m.minute + m.second

/-- **The fields determine the second.** -/
theorem toSecond_ofSecond (second : Int) (nano : Nat) :
    (ofSecond second nano).toSecond = second := by
  have h : Date.toDay (Date.ofDay (second / 86400)) = second / 86400 := Date.toDay_ofDay _
  simp only [toSecond, ofSecond, h]
  omega

end Moment

/-! ## Timestamps -/

/-- An instant and the offset, in seconds east of universal time, of the clock that showed it. -/
structure Timestamp where
  second : Int
  nano : Nat
  offset : Int
  second_mem : Representable second := by decide
  nano_lt : nano < 2000000000 := by decide
  offset_lt : offset.natAbs < 86400 := by decide
  deriving DecidableEq, Repr

namespace Timestamp

theorem zero_offset_lt : (0 : Int).natAbs < 86400 := by decide

/-- The start of 1970 in universal time. -/
def epoch : Timestamp := { second := 0, nano := 0, offset := 0, offset_lt := zero_offset_lt }

instance : Inhabited Timestamp := ⟨epoch⟩

/-- A stamp from its parts, if each is in its range. -/
def ofParts? (second : Int) (nano : Nat) (offset : Int) : Option Timestamp :=
  if h : Representable second ∧ nano < 2000000000 ∧ offset.natAbs < 86400 then
    some ⟨second, nano, offset, h.1, h.2.1, h.2.2⟩
  else none

/-- Nanoseconds may count beyond a second only inside the 59th second of a minute. -/
def NanoFits (nano second : Int) : Prop :=
  0 ≤ nano ∧ (nano < 1000000000 ∨ nano < 2000000000 ∧ second % 60 = 59)

instance (nano second : Int) : Decidable (NanoFits nano second) := by
  unfold NanoFits
  infer_instance

/-- The stamp of a second and nanoseconds since 1970. -/
def ofEpoch? (second nano offset : Int) : Option Timestamp :=
  if NanoFits nano second then ofParts? second nano.toNat offset else none

/-- What a wall clock shows, not yet checked. -/
structure Reading where
  year : Int := 0
  month : Int := 0
  day : Int := 0
  hour : Int := 0
  minute : Int := 0
  second : Int := 0
  nano : Int := 0

namespace Reading

/-- The readings that a wall clock can show: a date that exists in the calendar's range, and a time
of day without a sixtieth second. -/
def Valid (r : Reading) : Prop :=
  (-262143 ≤ r.year ∧ r.year ≤ 262142) ∧ (0 ≤ r.month ∧ 0 ≤ r.day) ∧
  Date.Valid ⟨r.year, r.month.toNat, r.day.toNat⟩ ∧ (0 ≤ r.hour ∧ r.hour < 24) ∧
  (0 ≤ r.minute ∧ r.minute < 60) ∧ (0 ≤ r.second ∧ r.second < 60) ∧ NanoFits r.nano r.second

instance (r : Reading) : Decidable r.Valid := by
  unfold Valid
  infer_instance

/-- The seconds since 1970 if the clock shows universal time. -/
def toSecond (r : Reading) : Int :=
  86400 * Date.toDay ⟨r.year, r.month.toNat, r.day.toNat⟩ + 3600 * r.hour + 60 * r.minute + r.second

end Reading

/-- The stamp of a wall clock's reading. -/
def ofLocal? (r : Reading) (offset : Int) : Option Timestamp :=
  if r.Valid then ofParts? (r.toSecond - offset) r.nano.toNat offset else none

/-- The fields in universal time. -/
def utc (t : Timestamp) : Moment := Moment.ofSecond t.second t.nano

/-- The fields on the wall clock of the stamp's offset; `none` when its date leaves the range. -/
def local? (t : Timestamp) : Option Moment :=
  if Representable (t.second + t.offset) then some (Moment.ofSecond (t.second + t.offset) t.nano)
  else none

theorem local?_eq_none_iff {t : Timestamp} :
    t.local? = none ↔ ¬ Representable (t.second + t.offset) := by
  simp only [local?, ite_eq_right_iff, reduceCtorEq, imp_false]

end Timestamp
end Logline
