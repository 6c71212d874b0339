import Logline.Text.Blank

/-!
# Presets

Patterns that have a name.

## What is here

* `Preset.all` — names and patterns, in the order that help lists them.
* `Preset.pattern?` — the pattern of a name, blanks at the ends and ASCII case aside.
-/

set_option autoImplicit false
namespace Logline
namespace Preset

/-- Date, time, zone, level, source, line and message. -/
def standard : String := "[%D %T %z] [%L] (%s:%N) %M\n"

/-- Short time, short date, level and message. -/
def short : String := "[%h:%m %d] [%L] %M\n"

/-- Level and message. -/
def abbreviated : String := "[%L] %M\n"

/-- Every field of a record as the member of an object.  The text of a field is not escaped, so a
message with a quotation mark in it breaks the object. -/
def json : String :=
  "\x7b\"Level\":%l,\"Created\":\"%YT%U%Z\",\"Prefix\":\"%P\",\"Source\":\"%S\",\"Line\":%N," ++
  "\"Message\":\"%M\"\x7d"

/-- The names and their patterns. -/
def all : List (String × String) :=
  [("default", standard), ("short", short), ("abbrev", abbreviated), ("json", json)]

/-- Whether two texts are equal up to the case of ASCII letters. -/
def sameName (a b : String) : Bool := a.toList.map Char.toLower == b.toList.map Char.toLower

/-- The pattern of the preset that a text names. -/
def pattern? (name : String) : Option String :=
  (all.find? fun p ↦ sameName p.1 (Text.trim name)).map (·.2)

end Preset
end Logline
