/-!
# Byte strings

A pattern and a rendered line are byte strings: they need not be text in any encoding.  This file
fixes how text enters and leaves that world.

## What is here

* `Bytes` — a list of bytes, so that everything that walks one is a recursion on lists.
* `Bytes.ofText` — the UTF-8 encoding of a text, one character after the other.
* `Bytes.toText?` — the text that a byte string encodes, if it is valid UTF-8.
-/

set_option autoImplicit false
namespace Logline

/-- A string of bytes. -/
abbrev Bytes := List UInt8

namespace Bytes

/-- The UTF-8 encoding of a list of characters. -/
def ofChars (cs : List Char) : Bytes := cs.flatMap String.utf8EncodeChar

/-- The UTF-8 encoding of a text. -/
def ofText (s : String) : Bytes := ofChars s.toList

/-- The text that a byte string encodes; `none` when the bytes are not valid UTF-8. -/
def toText? (b : Bytes) : Option String := String.fromUTF8? ⟨b.toArray⟩

theorem ofChars_append (cs ds : List Char) : ofChars (cs ++ ds) = ofChars cs ++ ofChars ds :=
  List.flatMap_append

theorem ofText_append (s t : String) : ofText (s ++ t) = ofText s ++ ofText t := by
  simp only [ofText, String.toList_append, ofChars_append]

end Bytes
end Logline
