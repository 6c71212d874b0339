import Logline.Proofs.Failure

/-!
# Patterns behind each other

Two patterns, one written behind the other, are rendered as the first and then the second, unless a
code is torn apart between them: if the first one ends with a percent sign, then the second one must
not start with a byte that this percent sign would take for its code.

Templates do not show this, since compiling may drop the last piece of the first pattern and keep it
in the whole.  Items do: the walk over the whole pattern is the walk over the first part, and then
the walk over the second part from the state that the first has left.

## What is here

* `Pattern.opens` — the state of the walk behind a pattern.
* `Pattern.items_append` — **the items of two patterns behind each other**.
* `Pattern.Joins` — two patterns that tear no code apart, and `Pattern.items_append_of_joins`.
* `Stage.format_append` — **what a layout makes of the whole and of the parts**.
-/

set_option autoImplicit false
namespace Logline

namespace Pattern

/-! ## The walk over two patterns -/

/-- Whether a code is open behind a pattern, if one is open in front of it or not. -/
def opens (opened : Bool) (p : Bytes) : Bool := p.foldl (fun _ b ↦ decide (b = percent)) opened

/-- A code is open behind a pattern exactly if the pattern ends with a percent sign. -/
theorem opens_eq_true_iff {p : Bytes} : opens false p = true ↔ p.getLast? = some percent := by
  obtain rfl | ⟨p, b, rfl⟩ := p.eq_nil_or_concat
  · exact iff_of_false Bool.false_ne_true (Option.some_ne_none percent).symm
  · rw [List.concat_eq_append, opens, List.foldl_concat, decide_eq_true_iff, List.getLast?_concat,
      Option.some.injEq]

/-- **The items of two patterns behind each other.**  The second is read from the state that the
first leaves. -/
theorem items_append (opened : Bool) (p q : Bytes) :
    items opened (p ++ q) = items opened p ++ items (opens opened p) q := by
  induction p generalizing opened with
  | nil => rfl
  | cons b p ih =>
    have hopens : opens opened (b :: p) = opens (decide (b = percent)) p := rfl
    rw [List.cons_append, items, items, hopens]
    by_cases h : b = percent
    · rw [if_pos h, if_pos h, decide_eq_true h, ih]
    · rw [if_neg h, if_neg h, decide_eq_false h, ih]
      cases opened with
      | true => exact (List.append_assoc _ _ _).symm
      | false => rfl

/-- An open code does not matter in front of another percent sign, or at the end. -/
theorem items_true_eq {q : Bytes} (h : q = [] ∨ q.head? = some percent) :
    items true q = items false q := by
  cases q with
  | nil => rfl
  | cons b q =>
    obtain h | h := h
    · cases h
    · rw [items, items, if_pos (Option.some.inj h), if_pos (Option.some.inj h)]

/-- No code is torn apart between two patterns. -/
def Joins (p q : Bytes) : Prop := q = [] ∨ q.head? = some percent ∨ p.getLast? ≠ some percent

theorem items_append_of_joins {p q : Bytes} (h : Joins p q) :
    items false (p ++ q) = items false p ++ items false q := by
  rw [items_append]
  cases hopens : opens false p with
  | false => rfl
  | true =>
    have hlast := opens_eq_true_iff.mp hopens
    obtain h | h | h := h
    · rw [items_true_eq (.inl h)]
    · rw [items_true_eq (.inr h)]
    · exact absurd hlast h

end Pattern

/-! ## Templates and layouts -/

namespace Template

variable {p q : Bytes}

theorem fill_compile_append (h : Pattern.Joins p q) (text : Code → Bytes) :
    (compile (p ++ q)).fill text = (compile p).fill text ++ (compile q).fill text := by
  simp only [fill_eq_items, items_compile, Pattern.items_append_of_joins h, List.flatMap_append]

theorem showsTime_compile_append (h : Pattern.Joins p q) :
    (compile (p ++ q)).showsTime = true ↔
      (compile p).showsTime = true ∨ (compile q).showsTime = true := by
  simp only [showsTime_iff_items, items_compile, Pattern.items_append_of_joins h, List.mem_append,
    or_and_right, exists_or]

end Template

namespace Layout

variable {p q : Bytes}

/-- The layout with a pattern that is given byte by byte; an empty one stays empty. -/
def setBytes (l : Layout) (p : Bytes) : Layout := { l with template := Template.compile p }

/-- The whole is rendered exactly if both parts are. -/
theorem renders_append_iff (h : Pattern.Joins p q) {l : Layout} {r : Record} :
    (l.setBytes (p ++ q)).Renders r ↔ (l.setBytes p).Renders r ∧ (l.setBytes q).Renders r := by
  simp only [Renders, setBytes, Template.showsTime_compile_append h, or_imp]

/-- What a layout makes of two patterns behind each other, if it makes something of both of them. -/
theorem format_setBytes_append_iff (h : Pattern.Joins p q) {l : Layout} {r : Record} {b : Bytes} :
    (l.setBytes (p ++ q)).format (some r) = .ok b ↔
      ∃ a a', (l.setBytes p).format (some r) = .ok a ∧
        (l.setBytes q).format (some r) = .ok a' ∧ b = a ++ a' := by
  have htext : (l.setBytes (p ++ q)).template.fill (r.field (r.moment l.utc) l.zone) =
      (l.setBytes p).template.fill (r.field (r.moment l.utc) l.zone) ++
        (l.setBytes q).template.fill (r.field (r.moment l.utc) l.zone) :=
    Template.fill_compile_append h _
  simp only [format_eq_ok_iff, renders_append_iff h]
  constructor
  · rintro ⟨⟨hp, hq⟩, rfl⟩
    exact ⟨_, _, ⟨hp, rfl⟩, ⟨hq, rfl⟩, htext⟩
  · rintro ⟨a, a', ⟨hp, rfl⟩, ⟨hq, rfl⟩, rfl⟩
    exact ⟨⟨hp, hq⟩, htext.symm⟩

end Layout

namespace Stage

theorem layout_step_ofBytes (s : Stage) (p : Bytes) :
    (s.step (.ofBytes p)).value.1.layout = s.layout.setBytes p := by
  rw [value_step, Step.pattern?_ofBytes]
  rfl

/-- **Patterns behind each other.**  Let two patterns tear no code apart between them, and let a
layout in any state be given the first, the second, or the one behind the other.  Then it renders a
record by the whole exactly if it renders it by both parts, and the rendering is that by the first
and then that by the second.  The whole shows the calendar or the clock exactly if one of the parts
does. -/
theorem format_append (s : Stage) (r : Record) {p q : Bytes}
    (h : q = [] ∨ q.head? = some percent ∨ p.getLast? ≠ some percent) :
    let rendered (pattern : Bytes) :=
      (s.step (.ofBytes pattern)).value.1.layout.format (some r)
    (∀ b, rendered (p ++ q) = .ok b ↔
      ∃ a a', rendered p = .ok a ∧ rendered q = .ok a' ∧ b = a ++ a') ∧
    ((Template.compile (p ++ q)).showsTime = true ↔
      (Template.compile p).showsTime = true ∨ (Template.compile q).showsTime = true) := by
  simp only [layout_step_ofBytes]
  exact ⟨fun b ↦ Layout.format_setBytes_append_iff h, Template.showsTime_compile_append h⟩

/-- The first pattern ends in a piece that shows nothing and is dropped; the second one makes it
worth keeping, and ends in a percent sign. -/
theorem format_append_revived :
    let s : Stage := ofOrigin ⟨0, none, by decide⟩ .default
    let r : Record := { message := "%T" }
    let p : Bytes := Bytes.ofText "%h%Q"
    let q : Bytes := 0xFF :: Bytes.ofText "%%M%"
    (Template.compile p).segments = [⟨some .hour, []⟩] ∧
      (s.step (.ofBytes (p ++ q))).value.1.layout.format (some r) =
        .ok (Bytes.ofText "00" ++ 0xFF :: Bytes.ofText "%T") := by
  intro s r p q
  have hp : (s.step (.ofBytes p)).value.1.layout.format (some r) = .ok (Bytes.ofText "00") := by
    decide
  have hq : (s.step (.ofBytes q)).value.1.layout.format (some r) =
      .ok (0xFF :: Bytes.ofText "%T") := by decide
  exact ⟨by decide, ((format_append s r (.inr (.inr (by decide)))).1 _).mpr ⟨_, _, hp, hq, rfl⟩⟩

end Stage
end Logline
