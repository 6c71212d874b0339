import Logline.Proofs.Failure
import Logline.Proofs.Timestamp

/-!
# How long a rendering is

The text of a code has a length that can be told without writing it (`Code.width`).  For the codes
of the calendar and the clock it is fixed: a pair takes two bytes whatever it holds, even if the
year is below zero or has six digits, and a number takes as many as it is padded to, since no clock
shows more than that.  So the length of a rendering depends on nothing that changes from one moment
to the next.

## What is here

* `Record.length_field` — the text of a code is as long as its width.
* `Template.length_fill` — the length of a template that is filled in.
* `Layout.length_rendered` — **how long a rendering is**.
-/

set_option autoImplicit false
namespace Logline

/-! ## One code -/

theorem Level.length_label (l : Level) : (Bytes.ofText l.label).length = 4 := by
  cases l <;> rfl

theorem Level.length_ordinal (l : Level) : (Digits.number l.ordinal 0).length = 1 := by
  cases l <;> rfl

/-- **The text of a code is as long as its width**, on every clock. -/
theorem Record.length_field (r : Record) {m : Moment} (h : m.Valid) (zone : ZoneText) (c : Code) :
    (r.field m zone c).length = c.width r zone := by
  obtain ⟨-, -, hhour, hminute, -⟩ := h.lt_hundred
  have hmicro : m.micro < 10 ^ 6 := h.2.2.2.2
  cases c with
  | timeMicros =>
    have hclock : m.clock.length = 8 := Digits.length_triple _ _ _ _
    rw [field, List.length_append, List.length_cons, hclock,
      Digits.length_number (by decide) (by decide) hmicro]
    rfl
  | hour => exact Digits.length_number (by decide) (by decide) hhour
  | minute => exact Digits.length_number (by decide) (by decide) hminute
  | level => exact r.level.length_label
  | levelNum => exact r.level.length_ordinal
  | line =>
    have hline : r.line.toNat < 10 ^ Digits.maxPlaces := Nat.lt_trans r.line.toNat_lt (by decide)
    rw [field, Digits.length_number_eq 0 hline, Nat.zero_min, Nat.max_zero]
    rfl
  | _ => rfl

/-! ## Templates -/

/-- The length of a template that is filled in: that of its head, and then a code and a tail for
each segment. -/
theorem Template.length_fill (t : Template) {text : Code → Bytes} {width : Code → Nat}
    (h : ∀ c, (text c).length = width c) :
    (t.fill text).length =
      t.head.length + (t.segments.map fun s ↦ (s.code.map width).getD 0 + s.tail.length).sum := by
  have hsegment : ∀ s : Segment,
      (s.fill text).length = (s.code.map width).getD 0 + s.tail.length := by
    rintro ⟨code, tail⟩
    rw [Segment.fill, List.length_append]
    cases code with
    | none => rfl
    | some c => exact congrArg (· + tail.length) (h c)
  rw [fill, List.length_append, List.length_flatMap]
  simp only [hsegment]

namespace Layout

/-- **How long a rendering is.**  A record that is rendered at all takes the bytes of the head of
the template, and for each segment the width of its code and the bytes of its tail; for the short
form of the source, that is what stands after the last separator.  So a record with another level
and another stamp is rendered to as many bytes. -/
theorem length_rendered {l : Layout} {r : Record} {b : Bytes} (h : l.format (some r) = .ok b) :
    b.length = l.template.head.length +
      (l.template.segments.map fun s ↦ (s.code.map (Code.width r l.zone)).getD 0 + s.tail.length).sum ∧
    (∀ dir name : String, '/' ∉ name.toList → r.source = dir ++ "/" ++ name ∨ r.source = name →
      Code.width r l.zone .shortSource = (Bytes.ofText name).length) ∧
    ∀ (level : Level) (created : Timestamp) (b' : Bytes),
      l.format (some { r with level, created }) = .ok b' → b'.length = b.length := by
  have hlength : ∀ (r : Record) (b : Bytes), l.format (some r) = .ok b →
      b.length = l.template.head.length + (l.template.segments.map fun s ↦
        (s.code.map (Code.width r l.zone)).getD 0 + s.tail.length).sum := by
    intro r b hb
    obtain ⟨-, rfl⟩ := format_eq_ok_iff.mp hb
    exact l.template.length_fill (r.length_field (r.valid_moment l.utc) l.zone)
  refine ⟨hlength r b h, fun dir name hname hsource ↦ ?_, fun level created b' hb' ↦ ?_⟩
  · exact congrArg (fun s ↦ (Bytes.ofText s).length) (Record.shortSource_eq hname hsource)
  · have hwidth : Code.width { r with level, created } l.zone = Code.width r l.zone := by
      funext c
      cases c <;> rfl
    rw [hlength _ b' hb', hwidth, hlength r b h]

/-- A leap second at the end of the last year, which has six digits and so spills into the byte for
the tens of its century; and the first second of the first year, which is below zero. -/
theorem length_rendered_ends :
    let l : Layout := ⟨Template.parse "%U %D %d %s:%N%n", true, ZoneText.universal⟩
    let last : Timestamp := { second := latest, nano := 1999999999, offset := 0 }
    let first : Timestamp := { second := earliest, nano := 0, offset := 0 }
    let r : Record := { source := "src/λ.rs", created := last }
    l.format (some r) = .ok (Bytes.ofText "23:59:59.999999 6142/12/31 31/12/42 λ.rs:0\n") ∧
    ∃ b, l.format (some { r with level := .critical, created := first }) = .ok b ∧
      b.length = 44 := by
  intro l last first r
  have hlast : l.format (some r) =
      .ok (Bytes.ofText "23:59:59.999999 6142/12/31 31/12/42 λ.rs:0\n") := by decide
  have hrenders : l.Renders { r with level := .critical, created := first } := by decide
  have hfirst := format_eq_ok_iff.mpr ⟨hrenders, rfl⟩
  exact ⟨hlast, _, hfirst, (length_rendered hlast).2.2 .critical first _ hfirst⟩

end Layout
end Logline
