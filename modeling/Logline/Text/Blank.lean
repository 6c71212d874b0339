/-!
# White space

The white space that is cut off the ends of a name before it is looked up: the characters with the
Unicode property `White_Space`, twenty-five in all.

## What is here

* `blankRanges` — the property as closed ranges of code points.
* `isBlank` — membership in the table.
* `trim` — a text without the blanks at its two ends.
-/

set_option autoImplicit false
namespace Logline
namespace Text

/-- The code points with the property `White_Space`, as closed ranges in increasing order. -/
def blankRanges : List (Nat × Nat) :=
  [(0x09, 0x0D), (0x20, 0x20), (0x85, 0x85), (0xA0, 0xA0), (0x1680, 0x1680), (0x2000, 0x200A),
   (0x2028, 0x2029), (0x202F, 0x202F), (0x205F, 0x205F), (0x3000, 0x3000)]

/-- The table holds twenty-five code points. -/
example : (blankRanges.map fun r ↦ r.2 + 1 - r.1).sum = 25 := by decide

/-- Whether a character is white space. -/
def isBlank (c : Char) : Bool := blankRanges.any fun r ↦ decide (r.1 ≤ c.toNat ∧ c.toNat ≤ r.2)

theorem isBlank_iff {c : Char} :
    isBlank c = true ↔ ∃ r ∈ blankRanges, r.1 ≤ c.toNat ∧ c.toNat ≤ r.2 := by
  simp only [isBlank, List.any_eq_true, decide_eq_true_eq]

/-- A list of characters without the blanks at its two ends. -/
def trimChars (cs : List Char) : List Char :=
  ((cs.dropWhile isBlank).reverse.dropWhile isBlank).reverse

/-- A text without the blanks at its two ends. -/
def trim (s : String) : String := String.ofList (trimChars s.toList)

end Text
end Logline
