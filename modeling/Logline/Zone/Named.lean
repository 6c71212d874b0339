import Logline.Calendar
import Logline.Zone

/-!
# Named zones

Time zones by the names of the zone database, as far as they are known here.

## What is here

* `ZoneRule` — a zone with one offset, or with daylight saving between two Sundays of the year.
* `ZoneRule.atSecond` — what a zone shows at an instant.
* `ZoneRule.ofName?` — the known zones.
* `HostZone.ofName` — the zone of a host, from the name its environment gives.  Its clock and its
  letters look the name up in two ways, which differ when colons stand in front of it.
-/

set_option autoImplicit false
namespace Logline

/-- Daylight saving: the letters and the offset while it lasts, and the second since 1970 at which
it begins and ends in a given year. -/
structure Season where
  abbreviation : String
  offset : Int
  start : Int → Int
  stop : Int → Int
  offset_lt : offset.natAbs < 86400 := by decide

/-- How a zone shows time. -/
structure ZoneRule where
  /-- What the zone shows outside daylight saving. -/
  standard : HostZone
  daylight : Option Season := none

namespace ZoneRule

/-- What a zone shows at a second since 1970. -/
def atSecond (rule : ZoneRule) (second : Int) : HostZone :=
  match rule.daylight with
  | none => rule.standard
  | some season =>
    let year := (Date.ofDay (second / 86400)).year
    if season.start year ≤ second ∧ second < season.stop year then
      ⟨season.offset, some season.abbreviation, season.offset_lt⟩
    else rule.standard

/-- A zone without daylight saving. -/
def fixed (offset : Int) (abbreviation : Option String)
    (h : offset.natAbs < 86400 := by decide) : ZoneRule := ⟨⟨offset, abbreviation, h⟩, none⟩

/-- A zone that has universal time all year, under its own letters. -/
def universal (abbreviation : String) : HostZone :=
  { HostZone.universal with abbreviation := some abbreviation }

/-- The eastern coast of North America: daylight saving from the second Sunday of March to the first
Sunday of November, from two o'clock to two o'clock on the wall clock. -/
def newYork : ZoneRule where
  standard := ⟨-18000, some "EST", by decide⟩
  daylight := some
    { abbreviation := "EDT"
      offset := -14400
      start := fun year ↦ 86400 * Date.sunday year 3 1 + 25200
      stop := fun year ↦ 86400 * Date.sunday year 11 0 + 21600 }

/-- Britain: daylight saving from the last Sunday of March to the last Sunday of October, from one
o'clock to one o'clock in universal time. -/
def london : ZoneRule where
  standard := universal "GMT"
  daylight := some
    { abbreviation := "BST"
      offset := 3600
      start := fun year ↦ 86400 * Date.lastSunday year 3 + 3600
      stop := fun year ↦ 86400 * Date.lastSunday year 10 + 3600 }

/-- The known zones. -/
def named : List (String × ZoneRule) :=
  [("UTC", ⟨universal "UTC", none⟩),
   ("Etc/UTC", ⟨universal "UTC", none⟩),
   ("Etc/GMT", ⟨universal "GMT", none⟩),
   ("Asia/Tokyo", fixed 32400 (some "JST")),
   ("Asia/Kolkata", fixed 19800 (some "IST")),
   ("Asia/Kathmandu", fixed 20700 none),
   ("Asia/Shanghai", fixed 28800 (some "CST")),
   ("America/Phoenix", fixed (-25200) (some "MST")),
   ("Pacific/Honolulu", fixed (-36000) (some "HST")),
   ("Etc/GMT+5", fixed (-18000) none),
   ("Etc/GMT-14", fixed 50400 none),
   ("America/New_York", newYork),
   ("Europe/London", london)]

/-- The zone with a given name, letter for letter. -/
def ofName? (name : String) : Option ZoneRule := named.lookup name

end ZoneRule

namespace HostZone

/-- What the zone with a given name shows at a second since 1970; universal time if it is not
known. -/
def named (name : List Char) (second : Int) : HostZone :=
  match ZoneRule.ofName? (String.ofList name) with
  | some rule => rule.atSecond second
  | none => universal

/-- The characters behind one colon, if they start with one. -/
def dropColon : List Char → List Char
  | ':' :: rest => rest
  | cs => cs

/-- What the zone of a host shows at a second since 1970, from the name that its environment gives.
The clock goes by the name behind one colon at most, and the letters by the name behind all of its
colons: two colons in front of a known name leave the clock in universal time, but keep the
letters. -/
def ofName (name : Option String) (second : Int) : HostZone :=
  let cs := (name.getD "").toList
  let letters := named (cs.dropWhile (· = ':')) second
  { named (dropColon cs) second with abbreviation := letters.abbreviation }

example : ofName (some ":Asia/Tokyo") 0 = ⟨32400, some "JST", by decide⟩ := by decide
example : ofName (some "::Asia/Tokyo") 0 = ⟨0, some "JST", by decide⟩ := by decide
example : ofName none 0 = universal := by decide

end HostZone
end Logline
