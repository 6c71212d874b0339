import Logline.Pattern.Template

/-!
# Reading a pattern from left to right

The meaning of a pattern without a template in between: one pass over its bytes that copies them
and, right after a percent sign, puts the text of a code instead of its letter.

## What is here

* `Pattern.expand` — the pass.  It holds one bit of state, whether the byte before was a percent
  sign that opens a code.
-/

set_option autoImplicit false
namespace Logline
namespace Pattern

/-- The pattern with `text c` in place of every code `c`.  Outside a code (`opened` is `false`),
bytes are copied up to a percent sign.  Behind a percent sign, another one opens a code anew, a byte
that is a code is replaced by its text, and any other byte is dropped. -/
def expand (text : Code → Bytes) (opened : Bool) : Bytes → Bytes
  | [] => []
  | b :: rest =>
    if b = percent then expand text true rest
    else if opened then ((Code.ofByte? b).map text).getD [] ++ expand text false rest
    else b :: expand text false rest

end Pattern
end Logline
