import Logline.Proofs.History
import Logline.Proofs.Pattern

/-!
# What a layout renders

Rendering takes three shortcuts: an empty template is not filled in at all, the calendar is not
asked for unless the template shows it, and a template has lost the pieces of its pattern that show
nothing.  This file says what is rendered without any of them, and that they do not show.

## What is here

* `Record.moment` — the calendar and clock of a record in either time mode, whether or not a
  template shows them.
* `Layout.Renders` and `Layout.format_some` — **rendering in one equation**: when it fails, and what
  it gives when it does not.
-/

set_option autoImplicit false
namespace Logline

/-! ## Calendar and clock in either time mode -/

/-- The fields on the wall clock of the stamp's offset, even outside the range of the calendar. -/
def Timestamp.wallClock (t : Timestamp) : Moment := Moment.ofSecond (t.second + t.offset) t.nano

/-- The calendar and clock of a record in universal or in local time. -/
def Record.moment (r : Record) (utc : Bool) : Moment :=
  if utc then r.created.utc else r.created.wallClock

theorem Timestamp.local?_eq_some {t : Timestamp} (h : Representable (t.second + t.offset)) :
    t.local? = some t.wallClock := by
  rw [local?, if_pos h, wallClock]

/-- A code that shows neither calendar nor clock stands for the same text at any moment. -/
theorem Record.field_eq_of_not_showsTime (r : Record) (m m' : Moment) (zone : ZoneText) {c : Code}
    (h : c.showsTime = false) : r.field m zone c = r.field m' zone c := by
  cases c <;> first | rfl | cases h

theorem Template.fill_eq_of_not_showsTime {t : Template} (h : t.showsTime = false) (r : Record)
    (m m' : Moment) (zone : ZoneText) : t.fill (r.field m zone) = t.fill (r.field m' zone) := by
  refine fill_congr fun s hs c hc ↦ r.field_eq_of_not_showsTime m m' zone ?_
  rw [showsTime, List.any_eq_false] at h
  have hcode := h s hs
  rw [hc] at hcode
  exact Bool.eq_false_iff.mpr hcode

theorem Template.isEmpty_iff {t : Template} :
    t.isEmpty = true ↔ t.head = [] ∧ t.segments = [] := by
  rw [isEmpty, Bool.and_eq_true, List.isEmpty_iff, List.isEmpty_iff]

theorem Template.fill_eq_nil_of_isEmpty {t : Template} (h : t.isEmpty = true)
    (text : Code → Bytes) : t.fill text = [] := by
  rw [isEmpty_iff] at h
  rw [fill, h.1, h.2]
  rfl

theorem Template.not_showsTime_of_isEmpty {t : Template} (h : t.isEmpty = true) :
    t.showsTime = false := by
  rw [isEmpty_iff] at h
  rw [showsTime, h.2]
  rfl

/-! ## The source without its directories -/

theorem forall_ne_of_not_mem {sep : Char} {name : List Char} (h : sep ∉ name) :
    ∀ c ∈ name.reverse, decide (c ≠ sep) = true := by
  intro c hc
  refine decide_eq_true ?_
  rintro rfl
  exact h (List.mem_reverse.mp hc)

theorem afterLast_append {sep : Char} {name : List Char} (h : sep ∉ name) (dir : List Char) :
    afterLast sep (dir ++ sep :: name) = name := by
  rw [afterLast, List.reverse_append, List.reverse_cons, List.append_assoc,
    List.takeWhile_append_of_pos (forall_ne_of_not_mem h), List.singleton_append,
    List.takeWhile_cons_of_neg (by simp), List.append_nil, List.reverse_reverse]

theorem afterLast_eq_self {sep : Char} {name : List Char} (h : sep ∉ name) :
    afterLast sep name = name := by
  rw [afterLast, List.takeWhile_eq_self_iff.mpr (forall_ne_of_not_mem h), List.reverse_reverse]

/-- The short form of a source is what stands after its last separator, or all of it. -/
theorem Record.shortSource_eq {r : Record} {dir name : String} (hname : '/' ∉ name.toList)
    (h : r.source = dir ++ "/" ++ name ∨ r.source = name) : r.shortSource = name := by
  rw [shortSource]
  obtain h | h := h
  · rw [h, String.toList_append, String.toList_append, List.append_assoc]
    exact (congrArg String.ofList (afterLast_append hname dir.toList)).trans String.ofList_toList
  · rw [h, afterLast_eq_self hname, String.ofList_toList]

/-! ## Rendering -/

namespace Layout

/-- Whether a record can be rendered: its wall clock is in the calendar's range, unless it is not
looked at. -/
def Renders (l : Layout) (r : Record) : Prop :=
  l.template.showsTime = true → l.utc = false → Representable (r.created.second + r.created.offset)

instance (l : Layout) (r : Record) : Decidable (l.Renders r) := by
  unfold Renders
  infer_instance

theorem moment?_eq_some {l : Layout} {r : Record} (h : l.Renders r)
    (ht : l.template.showsTime = true) : l.moment? r = some (r.moment l.utc) := by
  rw [moment?, if_pos ht, Record.moment]
  cases hu : l.utc with
  | true => rfl
  | false => exact Timestamp.local?_eq_some (h ht hu)

theorem moment?_eq_none {l : Layout} {r : Record} (h : ¬ l.Renders r) : l.moment? r = none := by
  rw [Renders, Classical.not_imp, Classical.not_imp] at h
  obtain ⟨ht, hu, hr⟩ := h
  rw [moment?, if_pos ht, hu]
  exact Timestamp.local?_eq_none_iff.mpr hr

/-- **Rendering in one equation.**  A record that can be rendered at all is rendered by filling in
the template at its moment; that nothing is filled into an empty template, and that the calendar is
not asked for in vain, cannot be told from the outside. -/
theorem format_some (l : Layout) (r : Record) :
    l.format (some r) =
      if l.Renders r then .ok (l.template.fill (r.field (r.moment l.utc) l.zone))
      else .error .localDateOutOfRange := by
  rw [format]
  by_cases hempty : l.template.isEmpty = true
  · have hrenders : l.Renders r := fun ht _ ↦
      absurd (ht.symm.trans (Template.not_showsTime_of_isEmpty hempty)) Bool.noConfusion
    rw [if_pos hempty, if_pos hrenders, Template.fill_eq_nil_of_isEmpty hempty]
  · rw [if_neg hempty]
    by_cases hrenders : l.Renders r
    · rw [if_pos hrenders]
      cases ht : l.template.showsTime with
      | true => rw [moment?_eq_some hrenders ht]
      | false =>
        rw [moment?, ht]
        exact congrArg Except.ok (Template.fill_eq_of_not_showsTime ht r _ _ _)
    · rw [if_neg hrenders, moment?_eq_none hrenders]

theorem renders_of_format_eq_ok {l : Layout} {r : Record} {b : Bytes}
    (h : l.format (some r) = .ok b) : l.Renders r := by
  by_contra hrenders
  rw [format_some, if_neg hrenders] at h
  cases h

end Layout

end Logline
