import Logline.Proofs.Pattern
import Mathlib.Data.List.Forall2

/-!
# Canonical templates

Compiling forgets some of a pattern: which byte stood where a code is missing, which of its two
letters the newline had, and the pieces that would show nothing.  What is left is a template of a
simple form: nothing that is copied holds a percent sign, and a segment without a code has something
to copy.

Every template of this form comes from some pattern, and there is little choice how to find one: the
pieces of the pattern are read off the segments, and only the byte in place of a missing code is
free.  Whatever it is, compiling gives the template back.

## What is here

* `Pattern.pieces_join` — cutting a pattern at its percent signs undoes joining the pieces.
* `Segment.ofPiece?_eq_some_iff` and `Segment.ofPiece?_eq_none_iff` — what a piece is compiled to,
  and which pieces are dropped.
* `Template.WrittenAs` — the patterns that can be read off a template; `Template.toPattern` is one.
* `Pattern.literals` and `Template.literals` — what is copied, said of a pattern and of a template.
* `Template.compile_of_writtenAs` and `Template.canonical_compile` — the two directions.
* `Template.write_back_compiles` — **the templates that compiling gives, and the way back from
  them**.
-/

set_option autoImplicit false
namespace Logline

/-! ## Cutting and joining -/

namespace Pattern

theorem pieces_append_of_not_mem {a : Bytes} (h : percent ∉ a) (p : Bytes) :
    pieces (a ++ p) = (a ++ (pieces p).1, (pieces p).2) := by
  induction a with
  | nil => rfl
  | cons b a ih =>
    rw [List.mem_cons, not_or] at h
    rw [List.cons_append, pieces_cons_of_ne (Ne.symm h.1), ih h.2]
    rfl

/-- **Cutting undoes joining**, if there are no percent signs but those between the pieces. -/
theorem pieces_join {head : Bytes} {later : List Bytes} (hhead : percent ∉ head)
    (hlater : ∀ piece ∈ later, percent ∉ piece) :
    pieces (head ++ later.flatMap (percent :: ·)) = (head, later) := by
  induction later generalizing head with
  | nil =>
    rw [pieces_append_of_not_mem hhead]
    exact congrArg (·, []) (List.append_nil head)
  | cons piece later ih =>
    rw [List.forall_mem_cons] at hlater
    rw [pieces_append_of_not_mem hhead, List.flatMap_cons, List.cons_append, pieces_cons_percent,
      ih hlater.1 hlater.2, List.append_nil]

/-- No percent sign is left in the pieces. -/
theorem percent_not_mem_pieces (p : Bytes) :
    percent ∉ (pieces p).1 ∧ ∀ piece ∈ (pieces p).2, percent ∉ piece := by
  induction p with
  | nil => exact ⟨List.not_mem_nil, List.forall_mem_nil _⟩
  | cons b p ih =>
    by_cases h : b = percent
    · subst h
      rw [pieces_cons_percent]
      exact ⟨List.not_mem_nil, List.forall_mem_cons.mpr ih⟩
    · rw [pieces_cons_of_ne h]
      exact ⟨fun hmem ↦ (List.mem_cons.mp hmem).elim (Ne.symm h) ih.1, ih.2⟩

end Pattern

/-! ## Pieces and segments -/

theorem Code.ofByte?_percent : ofByte? percent = none := by decide

namespace Segment

/-- What a piece is compiled to. -/
theorem ofPiece?_eq_some_iff {piece : Bytes} {s : Segment} :
    ofPiece? piece = some s ↔
      (∃ b, Code.ofByte? b = s.code ∧ piece = b :: s.tail) ∧ (s.code = none → s.tail ≠ []) := by
  obtain ⟨code, tail⟩ := s
  cases piece with
  | nil => exact iff_of_false (Option.some_ne_none _).symm (by rintro ⟨⟨b, -, ⟨⟩⟩, -⟩)
  | cons b rest =>
    rw [ofPiece?]
    by_cases h : Code.ofByte? b = none ∧ rest = []
    · rw [if_pos h]
      refine iff_of_false (Option.some_ne_none _).symm ?_
      rintro ⟨⟨b', hcode, hpiece⟩, hshows⟩
      obtain ⟨rfl, rfl⟩ := List.cons.inj hpiece
      exact hshows (hcode.symm.trans h.1) h.2
    · rw [if_neg h, Option.some.injEq, mk.injEq]
      constructor
      · rintro ⟨rfl, rfl⟩
        exact ⟨⟨b, rfl, rfl⟩, not_and.mp h⟩
      · rintro ⟨⟨b', hcode, hpiece⟩, -⟩
        obtain ⟨rfl, rfl⟩ := List.cons.inj hpiece
        exact ⟨hcode, rfl⟩

/-- The pieces that are dropped: those that are empty, and those of one byte that is no code. -/
theorem ofPiece?_eq_none_iff {piece : Bytes} :
    ofPiece? piece = none ↔ piece = [] ∨ ∃ b, piece = [b] ∧ Code.ofByte? b = none := by
  cases piece with
  | nil => exact iff_of_true rfl (.inl rfl)
  | cons b tail =>
    simp only [ofPiece?, ite_eq_left_iff, reduceCtorEq, imp_false, not_not, false_or,
      List.cons.injEq]
    constructor
    · rintro ⟨hcode, rfl⟩
      exact ⟨b, ⟨rfl, rfl⟩, hcode⟩
    · rintro ⟨b', ⟨rfl, rfl⟩, hcode⟩
      exact ⟨hcode, rfl⟩

/-- The pieces that can be read off a segment: a byte that stands for its code, or any byte but a
percent sign that stands for none if the code is missing, and then its tail. -/
def WrittenAs (s : Segment) (piece : Bytes) : Prop :=
  ∃ b, b ≠ percent ∧ Code.ofByte? b = s.code ∧ piece = b :: s.tail

end Segment

/-! ## Templates and patterns -/

namespace Template

/-- The patterns that can be read off a template: its head, and then a piece of each segment behind
a percent sign. -/
def WrittenAs (t : Template) (p : Bytes) : Prop :=
  ∃ later, List.Forall₂ Segment.WrittenAs t.segments later ∧
    p = t.head ++ later.flatMap (percent :: ·)

/-- A template can be written with the letters of its codes, and with any one byte that is free in
place of those that are missing. -/
theorem writtenAs_toPattern (t : Template) {filler : UInt8} (hcode : Code.ofByte? filler = none)
    (hpercent : filler ≠ percent) : t.WrittenAs (t.toPattern filler) := by
  let piece (s : Segment) : Bytes := (s.code.map Code.byte).getD filler :: s.tail
  refine ⟨t.segments.map piece, ?_, ?_⟩
  · rw [List.forall₂_map_right_iff, List.forall₂_same]
    rintro ⟨code, tail⟩ -
    cases code with
    | none => exact ⟨filler, hpercent, hcode, rfl⟩
    | some c =>
      refine ⟨c.byte, fun hc ↦ ?_, Code.ofByte?_byte c, rfl⟩
      have hsome := Code.ofByte?_byte c
      rw [hc, Code.ofByte?_percent] at hsome
      cases hsome
  · rw [toPattern, List.flatMap_map]

/-- Pieces that are read off the segments of a canonical template hold no percent sign, and each of
them is compiled to its segment. -/
theorem pieces_of_writtenAs {segments : List Segment} {later : List Bytes}
    (h : List.Forall₂ Segment.WrittenAs segments later)
    (hcanonical : ∀ s ∈ segments, percent ∉ s.tail ∧ (s.code = none → s.tail ≠ [])) :
    (∀ piece ∈ later, percent ∉ piece) ∧ later.filterMap Segment.ofPiece? = segments := by
  induction h with
  | nil => exact ⟨List.forall_mem_nil _, rfl⟩
  | @cons s piece segments later hpiece _ ih =>
    rw [List.forall_mem_cons] at hcanonical
    obtain ⟨hs, hrest⟩ := hcanonical
    obtain ⟨b, hpercent, hcode, rfl⟩ := hpiece
    have hsome : Segment.ofPiece? (b :: s.tail) = some s :=
      Segment.ofPiece?_eq_some_iff.mpr ⟨⟨b, hcode, rfl⟩, hs.2⟩
    have hnot : percent ∉ b :: s.tail := fun hmem ↦
      (List.mem_cons.mp hmem).elim (Ne.symm hpercent) hs.1
    exact ⟨List.forall_mem_cons.mpr ⟨hnot, (ih hrest).1⟩,
      (List.filterMap_cons_some hsome).trans (congrArg (s :: ·) (ih hrest).2)⟩

/-- **The way back.**  Every pattern that is read off a canonical template compiles to it. -/
theorem compile_of_writtenAs {t : Template} (ht : t.Canonical) {p : Bytes} (h : t.WrittenAs p) :
    compile p = t := by
  obtain ⟨later, hlater, rfl⟩ := h
  obtain ⟨hpieces, hsegments⟩ := pieces_of_writtenAs hlater ht.2
  rw [compile, Pattern.pieces_join ht.1 hpieces]
  exact congrArg (mk t.head) hsegments

/-- Compiled patterns are canonical. -/
theorem canonical_compile (p : Bytes) : (compile p).Canonical := by
  obtain ⟨hhead, hlater⟩ := Pattern.percent_not_mem_pieces p
  refine ⟨hhead, fun s hs ↦ ?_⟩
  obtain ⟨piece, hpiece, hsome⟩ := List.mem_filterMap.mp hs
  obtain ⟨⟨b, -, rfl⟩, hshows⟩ := Segment.ofPiece?_eq_some_iff.mp hsome
  exact ⟨fun hmem ↦ hlater _ hpiece (List.mem_cons_of_mem b hmem), hshows⟩

end Template

/-! ## What is copied -/

/-- The byte that an item copies, if it is not a code. -/
def Pattern.Item.byte? : Item → Option UInt8
  | byte b => some b
  | code _ => none

/-- The bytes of a pattern that are copied: those that are no percent sign and do not stand right
behind one. -/
def Pattern.literals (p : Bytes) : Bytes :=
  (((none :: p.map some).zip p).filter fun x ↦ x.1 ≠ some percent ∧ x.2 ≠ percent).map (·.2)

/-- The bytes of a template that are copied. -/
def Template.literals (t : Template) : Bytes := t.head ++ t.segments.flatMap (·.tail)

open Pattern (Item)

theorem Pattern.Item.filterMap_byte?_ofCode? (c : Option Code) :
    (ofCode? c).filterMap byte? = [] := by
  cases c <;> rfl

theorem Pattern.Item.filterMap_byte?_byte (b : Bytes) : (b.map byte).filterMap byte? = b := by
  rw [List.filterMap_map]
  exact List.filterMap_some

/-- The walk over a pattern copies its literals. -/
theorem Pattern.literals_eq_items (p : Bytes) :
    literals p = (items false p).filterMap Item.byte? := by
  -- A code is open exactly if the byte before is a percent sign, so that byte stands for the state.
  have h : ∀ before : Option UInt8,
      (((before :: p.map some).zip p).filter fun x ↦ x.1 ≠ some percent ∧ x.2 ≠ percent).map (·.2) =
        (items (decide (before = some percent)) p).filterMap Item.byte? := by
    induction p with
    | nil => exact fun _ ↦ rfl
    | cons b p ih =>
      intro before
      have hrest := ih (some b)
      rw [List.map_cons, List.zip_cons_cons, List.filter_cons, items]
      by_cases hb : b = percent
      · rw [if_neg (by simp [hb]), if_pos hb, hrest, hb, decide_eq_true rfl]
      rw [decide_eq_false fun h ↦ hb (Option.some.inj h)] at hrest
      rw [if_neg hb]
      by_cases hbefore : before = some percent
      · rw [if_neg (by simp [hbefore]), if_pos (decide_eq_true hbefore), List.filterMap_append,
          Item.filterMap_byte?_ofCode?, List.nil_append, hrest]
      · rw [if_pos (by simp [hb, hbefore]), if_neg (by simp [hbefore]), List.map_cons, hrest]
        rfl
  exact h none

theorem Template.literals_eq_items (t : Template) : t.literals = t.items.filterMap Item.byte? := by
  have hsegment : ∀ s ∈ t.segments, s.items.filterMap Item.byte? = s.tail := fun s _ ↦ by
    rw [Segment.items, List.filterMap_append, Item.filterMap_byte?_ofCode?,
      Item.filterMap_byte?_byte, List.nil_append]
  rw [literals, items, List.filterMap_append, Item.filterMap_byte?_byte, List.filterMap_flatMap,
    List.flatMap_congr hsegment]

namespace Template

/-- **The templates that compiling gives** are the canonical ones: those in which nothing that is
copied holds a percent sign, and a segment without a code has something to copy.  Whatever way a
canonical template is written as a pattern, that pattern compiles to it.  There is always such a
way: the letters of the codes, and any byte that is neither a code nor a percent sign where a code
is missing.  So compiling a pattern, writing the template and compiling again changes nothing; and
the bytes of a pattern that are neither percent signs nor right behind one are copied, each of them
once and in their order. -/
theorem write_back_compiles :
    (∀ t : Template, (∃ p, compile p = t) ↔ t.Canonical) ∧
    (∀ t : Template, t.Canonical → ∀ p, t.WrittenAs p → compile p = t) ∧
    (∀ (t : Template) (filler : UInt8), Code.ofByte? filler = none → filler ≠ percent →
      t.WrittenAs (t.toPattern filler)) ∧
    ∀ p : Bytes, (∀ q, (compile p).WrittenAs q → compile q = compile p) ∧
      (compile p).literals = Pattern.literals p := by
  refine ⟨fun t ↦ ⟨?_, fun ht ↦ ?_⟩, fun t ht p ↦ compile_of_writtenAs ht,
    fun t filler ↦ t.writtenAs_toPattern, fun p ↦ ⟨fun q ↦ ?_, ?_⟩⟩
  · rintro ⟨p, rfl⟩
    exact canonical_compile p
  · exact ⟨t.toPattern '!'.toUInt8,
      compile_of_writtenAs ht (t.writtenAs_toPattern (by decide) (by decide))⟩
  · exact compile_of_writtenAs (canonical_compile p)
  · rw [literals_eq_items, items_compile, Pattern.literals_eq_items]

/-- A pattern with the second letter of the newline, an empty piece, a byte that is no code in front
of a tail and one in front of nothing; and another pattern for its template. -/
theorem write_back_compiles_newline :
    let p := Bytes.ofText "a%R%%Qb%!%l"
    let q := Bytes.ofText "a%n%?b%l"
    let t : Template :=
      ⟨Bytes.ofText "a", [⟨some .newline, []⟩, ⟨none, Bytes.ofText "b"⟩, ⟨some .levelNum, []⟩]⟩
    compile p = t ∧ t.WrittenAs q ∧ compile q = t ∧ Pattern.literals p = Bytes.ofText "ab" := by
  intro p q t
  obtain ⟨hrange, hback, hwrite, hpattern⟩ := write_back_compiles
  have hp : compile p = t := by decide
  have hq : t.toPattern '?'.toUInt8 = q := by decide
  have hwritten : t.WrittenAs q := hq ▸ hwrite t '?'.toUInt8 (by decide) (by decide)
  refine ⟨hp, hwritten, hback t ((hrange t).mp ⟨p, hp⟩) q hwritten, ?_⟩
  rw [← (hpattern p).2, hp]
  rfl

end Template
end Logline
