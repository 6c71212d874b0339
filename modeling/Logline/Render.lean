import Logline.Pattern.Template
import Logline.Record
import Logline.Zone

/-!
# Rendering a record

What the codes of a template stand for in one record.

## What is here

* `Record.field` — the text of a code: a field of the record, of its calendar and clock, or of the
  zone texts.
* `Code.width` — the length of that text, said without writing it.
-/

set_option autoImplicit false
namespace Logline

namespace Moment

/-- An integer as a 32-bit word, negative ones counted down from the top. -/
def word (n : Int) : Nat := (n % 4294967296).toNat

/-- The century of the year, cut toward zero. -/
def century (m : Moment) : Nat := word (m.year.tdiv 100)

/-- The year in its century, with the sign of the year. -/
def yearOfCentury (m : Moment) : Nat := word (m.year.tmod 100)

/-- Hours, minutes and seconds. -/
def clock (m : Moment) : Bytes := Digits.triple m.hour m.minute m.second ':'.toUInt8

/-- Year, month and day. -/
def calendar (m : Moment) (sep : UInt8) : Bytes :=
  Digits.date m.century m.yearOfCentury m.month m.day sep

end Moment

/-- The text of a code for one record, its calendar and clock fields, and the zone texts. -/
def Record.field (r : Record) (m : Moment) (zone : ZoneText) : Code → Bytes
  | .timeMicros => m.clock ++ '.'.toUInt8 :: Digits.number m.micro 6
  | .time => m.clock
  | .hour => Digits.number m.hour 2
  | .minute => Digits.number m.minute 2
  | .zoneLong => zone.long
  | .zoneShort => zone.short
  | .dateSlash => m.calendar '/'.toUInt8
  | .dateDash => m.calendar '-'.toUInt8
  | .dateShort => Digits.triple m.day m.month m.yearOfCentury '/'.toUInt8
  | .level => Bytes.ofText r.level.label
  | .levelNum => Digits.number r.level.ordinal 0
  | .component => Bytes.ofText r.component
  | .source => Bytes.ofText r.source
  | .shortSource => Bytes.ofText r.shortSource
  | .line => Digits.number r.line.toNat 0
  | .message => Bytes.ofText r.message
  | .tab => ['\t'.toUInt8]
  | .carriageReturn => ['\r'.toUInt8]
  | .newline => ['\n'.toUInt8]

/-- How many bytes the text of a code takes. -/
def Code.width (r : Record) (zone : ZoneText) : Code → Nat
  | .timeMicros => 15
  | .time | .dateShort => 8
  | .dateSlash | .dateDash => 10
  | .hour | .minute => 2
  | .zoneLong => zone.long.length
  | .zoneShort => zone.short.length
  | .level => 4
  | .levelNum | .tab | .carriageReturn | .newline => 1
  | .component => (Bytes.ofText r.component).length
  | .source => (Bytes.ofText r.source).length
  | .shortSource => (Bytes.ofText r.shortSource).length
  | .line => (Nat.toDigits 10 r.line.toNat).length
  | .message => (Bytes.ofText r.message).length

end Logline
