import Logline.Digits

/-!
# Zone texts

A layout shows the time zone in two forms: a short one, the name of the zone, and a long one, its
offset from universal time.  Both are fixed when the layout switches between universal and local
time, and stay as they are until the next switch.

## What is here

* `Offset.compact` and `Offset.spaced` — an offset as `+0530` and as `+05:30`, to the nearest
  minute.
* `Offset.read?` — reads either form back.
* `ZoneText.ofOffset` — the two forms for an offset and a name.
* `HostZone` — what the zone of the host shows at some instant; `ZoneText.capture` takes the two
  forms from it.
-/

set_option autoImplicit false
namespace Logline

/-! ## Offsets -/

namespace Offset

/-- The size of an offset in minutes; half a minute counts as a whole one. -/
def minutes (offset : Int) : Nat := (offset.natAbs + 30) / 60

/-- The sign of an offset, east being positive. -/
def sign (offset : Int) : UInt8 := if offset < 0 then '-'.toUInt8 else '+'.toUInt8

/-- Sign, hours and minutes. -/
def compact (offset : Int) : Bytes :=
  sign offset :: Digits.pair (minutes offset / 60) ++ Digits.pair (minutes offset % 60)

/-- Sign, hours, a colon and minutes. -/
def spaced (offset : Int) : Bytes :=
  sign offset :: Digits.pair (minutes offset / 60) ++
    ':'.toUInt8 :: Digits.pair (minutes offset % 60)

/-- The offset that a sign and the digits of hours and minutes write. -/
def ofFields? (sign : UInt8) (hours minutes : Bytes) : Option Int := do
  let h ← Digits.value? hours
  let m ← Digits.value? minutes
  let size : Int := 60 * (60 * h + m)
  if m < 60 then
    if sign = '-'.toUInt8 then some (-size) else if sign = '+'.toUInt8 then some size else none
  else none

/-- The offset that a text writes: `Z`, or either form of an offset in whole minutes. -/
def read? : Bytes → Option Int
  | [z] => if z = 'Z'.toUInt8 then some 0 else none
  | [s, h₁, h₀, m₁, m₀] => ofFields? s [h₁, h₀] [m₁, m₀]
  | [s, h₁, h₀, c, m₁, m₀] => if c = ':'.toUInt8 then ofFields? s [h₁, h₀] [m₁, m₀] else none
  | _ => none

end Offset

/-! ## The two forms -/

/-- The texts that a layout shows for its time zone. -/
structure ZoneText where
  short : Bytes
  long : Bytes
  deriving DecidableEq, Repr

/-- What the zone of the host shows at some instant: its offset, and the letters that stand for it
if it has any. -/
@[ext]
structure HostZone where
  offset : Int
  abbreviation : Option String
  offset_lt : offset.natAbs < 86400 := by decide
  deriving Repr

instance : DecidableEq HostZone := fun a b ↦
  decidable_of_decidable_of_iff
    (p := a.offset = b.offset ∧ a.abbreviation = b.abbreviation) HostZone.ext_iff.symm

/-- The zone of a host in universal time. -/
def HostZone.universal : HostZone := ⟨0, none, by decide⟩

namespace ZoneText

/-- The texts of universal time. -/
def universal : ZoneText := ⟨Bytes.ofText "UTC", Bytes.ofText "Z"⟩

/-- The texts for a clock with an offset, in a zone that may have a name. -/
def ofOffset (offset : Int) (name : Option String) (utc : Bool) : ZoneText :=
  if utc then universal
  else
    { short := match name with
        | some s => Bytes.ofText s
        | none => Offset.compact offset
      long := if offset = 0 then Bytes.ofText "Z" else Offset.spaced offset }

/-- The texts for universal time or for the zone of the host.  A host without letters of its own
whose clock shows universal time is called so. -/
def capture (host : HostZone) (utc : Bool) : ZoneText :=
  ofOffset host.offset (host.abbreviation <|> if host.offset = 0 then some "UTC" else none) utc

end ZoneText
end Logline
