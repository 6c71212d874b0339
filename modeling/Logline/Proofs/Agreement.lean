import Logline.Proofs.Failure
import Logline.Proofs.Timestamp

/-!
# Codes that agree

Seven codes show the calendar or the clock, and they are written in two ways: hours and minutes on
their own are numbers, while a time of day and a date are made of pairs.  Numbers and pairs hold the
same as long as they are below a hundred, which those of a clock are.  The year need not be: before
the year 0 and after 9999 its two pairs are no digits, but all dates have the same two.

## What is here

* `Code.pattern` — a code that stands alone; `Layout.format_pattern_eq_ok_iff` says what it is
  rendered to, and when it is.
* `Layout.codes_agree` — **the codes of the calendar and the clock as parts of each other**.
-/

set_option autoImplicit false
namespace Logline

/-! ## A code that stands alone -/

/-- The pattern that is a code and nothing else. -/
def Code.pattern (c : Code) : String := String.ofList ['%', c.letter]

example : [Code.hour, .minute, .time, .timeMicros, .dateSlash, .dateDash, .dateShort].map
    Code.pattern = ["%h", "%m", "%T", "%U", "%D", "%Y", "%d"] := by decide

theorem Template.parse_pattern (c : Code) : Template.parse c.pattern = ⟨[], [⟨some c, []⟩]⟩ := by
  cases c <;> decide

namespace Layout

/-- A code that stands alone is rendered to what it stands for, unless it shows a wall clock that
has left the calendar's range. -/
theorem format_pattern_eq_ok_iff {l : Layout} {r : Record} {c : Code} {b : Bytes} :
    (l.setPattern c.pattern).format (some r) = .ok b ↔
      (c.showsTime = true → l.utc = false → Representable (r.created.second + r.created.offset)) ∧
        b = r.field (r.moment l.utc) l.zone c := by
  rw [format_eq_ok_iff, Renders, setPattern, Template.parse_pattern]
  simp [Template.showsTime, Template.fill, Segment.fill]

/-! ## The seven codes -/

/-- **The codes of the calendar and the clock as parts of each other**, in either time mode and in
every year.  If one of them can be rendered they all can.  The time of day is the hour, the minute
and two digits of seconds with colons between them, and with microseconds, it has a point and six
digits behind it.  The two long dates differ only at the places of the two slashes, where one of
them has slashes and the other one dashes.  The short date has its day, its month and its year from
them, two bytes each. -/
theorem codes_agree {l : Layout} {r : Record} {c : Code} {b : Bytes} (hc : c.showsTime = true)
    (h : (l.setPattern c.pattern).format (some r) = .ok b) :
    let render := fun c : Code ↦ (l.setPattern c.pattern).format (some r)
    ∃ hour minute second micro time timeMicros slash dash short : Bytes,
      render .hour = .ok hour ∧ render .minute = .ok minute ∧ render .time = .ok time ∧
      render .timeMicros = .ok timeMicros ∧ render .dateSlash = .ok slash ∧
      render .dateDash = .ok dash ∧ render .dateShort = .ok short ∧
      (Bytes.Fits "00".toList second ∧
        Digits.value? second = some (r.moment l.utc).second ∧
        time = hour ++ ':'.toUInt8 :: minute ++ ':'.toUInt8 :: second) ∧
      (Bytes.Fits "000000".toList micro ∧
        Digits.value? micro = some (r.moment l.utc).micro ∧
        timeMicros = time ++ '.'.toUInt8 :: micro) ∧
      (dash.length = 10 ∧ dash[4]? = some '-'.toUInt8 ∧ dash[7]? = some '-'.toUInt8 ∧
        slash = (dash.set 4 '/'.toUInt8).set 7 '/'.toUInt8) ∧
      short = slash.extract 8 10 ++ '/'.toUInt8 :: slash.extract 5 7 ++
        '/'.toUInt8 :: slash.extract 2 4 := by
  intro render
  have hrange := (format_pattern_eq_ok_iff.mp h).1 hc
  have hrender : ∀ c, render c = .ok (r.field (r.moment l.utc) l.zone c) := fun c ↦
    format_pattern_eq_ok_iff.mpr ⟨fun _ ↦ hrange, rfl⟩
  have hvalid := r.valid_moment l.utc
  generalize r.moment l.utc = m at hrender hvalid ⊢
  obtain ⟨-, -, hhour, hminute, hsecond⟩ := hvalid.lt_hundred
  have hmicro : m.micro < 10 ^ 6 := hvalid.2.2.2.2
  have hsix : Bytes.Fits (List.replicate 6 '0') (Digits.number m.micro 6) :=
    Digits.fits_number (by decide) (by decide) hmicro
  refine ⟨_, _, Digits.pair m.second, Digits.number m.micro 6, _, _, _, _, _, hrender .hour,
    hrender .minute, hrender .time, hrender .timeMicros, hrender .dateSlash, hrender .dateDash,
    hrender .dateShort, ⟨Digits.fits_pair hsecond, Digits.value?_pair hsecond, ?_⟩,
    ⟨hsix, Digits.value?_number 6 (Nat.lt_trans hmicro (by decide)), rfl⟩,
    ⟨rfl, rfl, rfl, rfl⟩, rfl⟩
  have hhours : r.field m l.zone .hour = Digits.pair m.hour := Digits.number_two_eq_pair hhour
  have hminutes : r.field m l.zone .minute = Digits.pair m.minute :=
    Digits.number_two_eq_pair hminute
  rw [hhours, hminutes]
  rfl

/-- A leap second at the end of the year before 0, on a clock that shows the year 0 already.  In
universal time the two bytes for the year in its century are no digits. -/
theorem codes_agree_below_zero :
    let l : Layout := ⟨Template.parse "", true, ZoneText.universal⟩
    let r : Record := { created := { second := -62167219201, nano := 1999999999, offset := 1 } }
    let render := fun c : Code ↦ (l.setPattern c.pattern).format (some r)
    render .dateDash = .ok [48, 48, 0xC9, 53, 45, 49, 50, 45, 51, 49] ∧
    render .dateSlash = .ok [48, 48, 0xC9, 53, 47, 49, 50, 47, 51, 49] ∧
    render .dateShort = .ok [51, 49, 47, 49, 50, 47, 0xC9, 53] ∧
    ∃ time micro, render .time = .ok time ∧
      render .timeMicros = .ok (time ++ '.'.toUInt8 :: micro) ∧
      Digits.value? micro = some 999999 := by
  intro l r render
  have hdash : render .dateDash = .ok [48, 48, 0xC9, 53, 45, 49, 50, 45, 51, 49] := by decide
  obtain ⟨-, -, -, micro, time, -, slash, dash, short, -, -, htime, htimeMicros, hslash, hdash',
    hshort, -, ⟨-, hmicro, rfl⟩, ⟨-, -, -, rfl⟩, rfl⟩ := codes_agree rfl hdash
  obtain rfl := Except.ok.inj (hdash'.symm.trans hdash)
  have hshown : (r.moment l.utc).micro = 999999 := by decide
  exact ⟨hdash, hslash, hshort, time, micro, htime, htimeMicros, hshown ▸ hmicro⟩

end Layout
end Logline
