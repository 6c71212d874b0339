import Logline.Digits

/-!
# Writing the components of a clock or a date

`Digits.pair` says which two bytes a component takes.  This file says how they are written, in the
arithmetic of a machine.  A component is a word of 32 bits and a digit is a byte: tens and ones are
cut down to a byte and counted on from `'0'`, around to 0 after 255.  Both operations are there for
every word, and no other is needed, so writing components has a result on all of them.

## What is here

* `Component`, with the bytes for its tens and its ones.
* `Digits.writeTriple` and `Digits.writeDate` — three and four components behind what a buffer
  already holds.
-/

set_option autoImplicit false
namespace Logline
namespace Digits

/-- A component of a clock or a date as a machine holds it. -/
abbrev Component := UInt32

namespace Component

/-- The byte for the tens. -/
def tensByte (v : Component) : UInt8 := '0'.toUInt8 + (v / 10).toUInt8

/-- The byte for the ones. -/
def onesByte (v : Component) : UInt8 := '0'.toUInt8 + (v % 10).toUInt8

end Component

/-- Three components with a separator between them, behind the bytes that `buf` holds. -/
def writeTriple (buf : Bytes) (a b c : Component) (sep : UInt8) : Bytes :=
  buf ++ [a.tensByte, a.onesByte, sep, b.tensByte, b.onesByte, sep, c.tensByte, c.onesByte]

/-- A century and a year in it, then two components, each with a separator in front, behind the
bytes that `buf` holds. -/
def writeDate (buf : Bytes) (cc yy mm dd : Component) (sep : UInt8) : Bytes :=
  buf ++ [cc.tensByte, cc.onesByte, yy.tensByte, yy.onesByte, sep, mm.tensByte, mm.onesByte, sep,
    dd.tensByte, dd.onesByte]

end Digits
end Logline
