import Logline.Bytes

/-!
# Codes

In a pattern, a percent sign and the byte after it stand for something to be filled in.  The bytes
that mean something are a closed set of codes.

## What is here

* `Code`, with its letter (`Code.byte`) and a line of help (`Code.describe`).
* `Code.ofByte?` — the code that a byte stands for.  Every code answers to its own letter, and the
  newline to a second one.
* `Code.showsTime` — the codes that need the calendar or the clock.
-/

set_option autoImplicit false
namespace Logline

/-- What a percent sign and a byte can stand for. -/
inductive Code where
  | timeMicros
  | time
  | hour
  | minute
  | zoneLong
  | zoneShort
  | dateSlash
  | dateDash
  | dateShort
  | level
  | levelNum
  | component
  | source
  | shortSource
  | line
  | message
  | tab
  | carriageReturn
  | newline
  deriving DecidableEq, Repr

namespace Code

/-- Every code, in the order that help lists them. -/
def all : List Code :=
  [timeMicros, time, hour, minute, zoneLong, zoneShort, dateSlash, dateDash, dateShort, level,
   levelNum, component, source, shortSource, line, message, tab, carriageReturn, newline]

/-- The letter of a code. -/
def letter : Code → Char
  | timeMicros => 'U'
  | time => 'T'
  | hour => 'h'
  | minute => 'm'
  | zoneLong => 'Z'
  | zoneShort => 'z'
  | dateSlash => 'D'
  | dateDash => 'Y'
  | dateShort => 'd'
  | level => 'L'
  | levelNum => 'l'
  | component => 'P'
  | source => 'S'
  | shortSource => 's'
  | line => 'N'
  | message => 'M'
  | tab => 't'
  | carriageReturn => 'r'
  | newline => 'n'

/-- The letter of a code as a byte of a pattern. -/
def byte (c : Code) : UInt8 := c.letter.toUInt8

/-- The second letter of the newline. -/
def newlineAlias : UInt8 := 'R'.toUInt8

/-- The code that a byte after a percent sign stands for. -/
def ofByte? (b : UInt8) : Option Code :=
  if b = newlineAlias then some newline else all.find? fun c ↦ c.byte == b

@[simp] theorem ofByte?_byte (c : Code) : ofByte? c.byte = some c := by
  cases c <;> decide

theorem ofByte?_eq_some_iff {b : UInt8} {c : Code} :
    ofByte? b = some c ↔ b = c.byte ∨ b = newlineAlias ∧ c = newline := by
  constructor
  · intro h
    unfold ofByte? at h
    split at h
    · next hb => exact .inr ⟨hb, (Option.some.inj h).symm⟩
    · have hb := List.find?_some h
      exact .inl (eq_of_beq hb).symm
  · rintro (rfl | ⟨rfl, rfl⟩)
    · exact ofByte?_byte c
    · decide

/-- The codes that show the calendar or the clock of the record. -/
def showsTime : Code → Bool
  | timeMicros | time | hour | minute | dateSlash | dateDash | dateShort => true
  | _ => false

/-- A line of help. -/
def describe : Code → String
  | timeMicros => "time (15:04:05.000000)"
  | time => "time (15:04:05)"
  | hour => "hour"
  | minute => "minute"
  | zoneLong => "zone offset (-07:00, Z for UTC)"
  | zoneShort => "zone name (UTC, or -0700 for local time)"
  | dateSlash => "date (2006/01/02)"
  | dateDash => "date (2006-01-02)"
  | dateShort => "date (02/01/06)"
  | level => "level (FNST, FINE, DEBG, TRAC, INFO, WARN, EROR, CRIT)"
  | levelNum => "level ordinal"
  | component => "prefix"
  | source => "source"
  | shortSource => "short source (after the last /)"
  | line => "line number"
  | message => "message"
  | tab => "tab (\\t)"
  | carriageReturn => "carriage return (\\r)"
  | newline => "newline (\\n), also %R"

end Code
end Logline
