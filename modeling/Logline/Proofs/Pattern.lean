import Logline.Pattern.Direct
import Mathlib.Data.List.Basic

/-!
# Compiled patterns and patterns read from left to right

Two ways to give a pattern its meaning: compile it to a template and fill that in (`Template.fill`),
or walk over its bytes (`Pattern.expand`).  This file shows that they agree, and that they agree on
more than what they show: a pattern and its template are made of the same *items*, bytes to copy and
codes to fill in, in the same order.

The walk has one bit of state, and so there are two things to say about a pattern that has been cut
at its percent signs: what the walk makes of it when it starts outside a code, and what it makes of
it when it starts right behind a percent sign.  In the second case the text up to the next percent
sign is itself a piece, and it is read as one.

## What is here

* `Pattern.Item` — a byte to copy or a code to fill in; `Pattern.items` and `Template.items` list
  those of a pattern and of a template.
* `Pattern.expand_eq_items` and `Template.fill_eq_items` — to show either is to show its items.
* `Pattern.items_eq_pieces` — the walk in terms of the pieces, from either state.
* `Template.items_compile` and `Template.fill_compile` — **compiling loses nothing**: the pieces
  that it leaves out would have shown nothing.
* `Template.showsTime_iff_items` — whether a template shows the time is up to its items.
* `Template.fill_congr` — filling in asks only for the texts of the codes that occur.
-/

set_option autoImplicit false
namespace Logline

/-! ## Items -/

namespace Pattern

/-- What patterns are made of. -/
inductive Item where
  /-- A byte that is copied. -/
  | byte (b : UInt8)
  /-- A code that is filled in. -/
  | code (c : Code)
  deriving DecidableEq, Repr

/-- The item with `text c` in place of the code `c`. -/
def Item.fill (text : Code → Bytes) : Item → Bytes
  | byte b => [b]
  | code c => text c

/-- The item of a code, if there is one. -/
def Item.ofCode? (c : Option Code) : List Item := (c.map code).toList

/-- The items of a pattern from left to right; `opened` says that a code is open, as in `expand`. -/
def items (opened : Bool) : Bytes → List Item
  | [] => []
  | b :: rest =>
    if b = percent then items true rest
    else if opened then Item.ofCode? (Code.ofByte? b) ++ items false rest
    else .byte b :: items false rest

section Fill

variable (text : Code → Bytes)

theorem Item.flatMap_fill_ofCode? (c : Option Code) :
    (ofCode? c).flatMap (fill text) = (c.map text).getD [] := by
  cases c with
  | none => rfl
  | some c => exact List.append_nil _

theorem Item.flatMap_fill_byte (b : Bytes) : (b.map byte).flatMap (fill text) = b := by
  rw [List.flatMap_map]
  exact List.flatMap_singleton' b

/-- The walk shows the items of the pattern. -/
theorem expand_eq_items (opened : Bool) (p : Bytes) :
    expand text opened p = (items opened p).flatMap (Item.fill text) := by
  induction p generalizing opened with
  | nil => rfl
  | cons b p ih =>
    rw [expand, items]
    by_cases h : b = percent
    · rw [if_pos h, if_pos h, ih]
    · rw [if_neg h, if_neg h]
      cases opened with
      | true => rw [if_pos rfl, if_pos rfl, List.flatMap_append, Item.flatMap_fill_ofCode?, ih]
      | false => exact congrArg (b :: ·) (ih false)

end Fill

/-! ## Pieces -/

/-- The items of a piece behind a percent sign: its first byte, if that is a code, and then its
other bytes. -/
def pieceItems : Bytes → List Item
  | [] => []
  | b :: tail => Item.ofCode? (Code.ofByte? b) ++ tail.map .byte

theorem pieces_cons_percent (p : Bytes) :
    pieces (percent :: p) = ([], (pieces p).1 :: (pieces p).2) := by
  simp only [pieces, if_true]

theorem pieces_cons_of_ne {b : UInt8} (h : b ≠ percent) (p : Bytes) :
    pieces (b :: p) = (b :: (pieces p).1, (pieces p).2) := by
  simp only [pieces, if_neg h]

/-- **The walk, piece by piece.**  Started outside a code it copies the text before the first
percent sign; started behind a percent sign it takes that text for a piece. -/
theorem items_eq_pieces (p : Bytes) :
    items false p = (pieces p).1.map .byte ++ (pieces p).2.flatMap pieceItems ∧
      items true p = pieceItems (pieces p).1 ++ (pieces p).2.flatMap pieceItems := by
  induction p with
  | nil => exact ⟨rfl, rfl⟩
  | cons b p ih =>
    obtain ⟨ih_copy, ih_code⟩ := ih
    by_cases h : b = percent
    · subst h
      rw [pieces_cons_percent]
      simp only [items, if_true, List.flatMap_cons, List.map_nil, List.nil_append, pieceItems]
      exact ⟨ih_code, ih_code⟩
    · rw [pieces_cons_of_ne h]
      simp only [items, if_neg h, pieceItems, ih_copy, List.map_cons, List.cons_append,
        List.append_assoc]
      exact ⟨rfl, rfl⟩

end Pattern

/-! ## Segments and templates -/

open Pattern (Item)

/-- The items of a segment: its code, if it has one, and its tail. -/
def Segment.items (s : Segment) : List Item := Item.ofCode? s.code ++ s.tail.map .byte

/-- A piece that has no segment has no items, and every other piece has those of its segment. -/
theorem Segment.items_ofPiece? (piece : Bytes) :
    ((ofPiece? piece).map items).getD [] = Pattern.pieceItems piece := by
  cases piece with
  | nil => rfl
  | cons b tail =>
    rw [ofPiece?, Pattern.pieceItems]
    split
    · next h => rw [h.1, h.2]; rfl
    · rfl

namespace Template

/-- The items of a template. -/
def items (t : Template) : List Item := t.head.map .byte ++ t.segments.flatMap Segment.items

theorem items_segments (later : List Bytes) :
    (later.filterMap Segment.ofPiece?).flatMap Segment.items =
      later.flatMap Pattern.pieceItems := by
  induction later with
  | nil => rfl
  | cons piece later ih =>
    rw [List.flatMap_cons, ← Segment.items_ofPiece?, ← ih, List.filterMap_cons]
    cases Segment.ofPiece? piece with
    | none => rfl
    | some s => rfl

/-- **A pattern and its template have the same items.** -/
theorem items_compile (p : Bytes) : (compile p).items = Pattern.items false p := by
  rw [(Pattern.items_eq_pieces p).1, items, compile]
  exact congrArg ((Pattern.pieces p).1.map .byte ++ ·) (items_segments (Pattern.pieces p).2)

/-- To fill in a template is to fill in its items. -/
theorem fill_eq_items (text : Code → Bytes) (t : Template) :
    t.fill text = t.items.flatMap (Item.fill text) := by
  have hsegment : ∀ s ∈ t.segments, s.items.flatMap (Item.fill text) = s.fill text := fun s _ ↦ by
    rw [Segment.items, List.flatMap_append, Item.flatMap_fill_ofCode?, Item.flatMap_fill_byte,
      Segment.fill]
  rw [fill, items, List.flatMap_append, Item.flatMap_fill_byte, List.flatMap_assoc,
    List.flatMap_congr hsegment]

/-- **Compiling loses nothing.**  A compiled pattern is filled in with what the pattern reads as
from left to right. -/
theorem fill_compile (text : Code → Bytes) (p : Bytes) :
    (compile p).fill text = Pattern.expand text false p := by
  rw [fill_eq_items, items_compile, Pattern.expand_eq_items]

theorem mem_items_code_iff {t : Template} {c : Code} :
    Item.code c ∈ t.items ↔ ∃ s ∈ t.segments, s.code = some c := by
  have hbyte : ∀ b : Bytes, Item.code c ∉ b.map .byte := fun b h ↦ by
    obtain ⟨x, -, hx⟩ := List.mem_map.mp h
    cases hx
  have hcode : ∀ o : Option Code, Item.code c ∈ Item.ofCode? o ↔ o = some c := fun o ↦ by
    rw [Item.ofCode?, Option.mem_toList, Option.map_eq_some_iff]
    exact ⟨fun ⟨_, hd, h⟩ ↦ Item.code.inj h ▸ hd, fun h ↦ ⟨c, h, rfl⟩⟩
  simp only [items, Segment.items, List.mem_append, List.mem_flatMap, hbyte, hcode, or_false,
    false_or]

/-- A template shows the calendar or the clock if one of its items does. -/
theorem showsTime_iff_items {t : Template} :
    t.showsTime = true ↔ ∃ c, Item.code c ∈ t.items ∧ c.showsTime = true := by
  simp only [mem_items_code_iff, showsTime, List.any_eq_true, Option.any_eq_true]
  constructor
  · rintro ⟨s, hs, c, hc, ht⟩
    exact ⟨c, ⟨s, hs, hc⟩, ht⟩
  · rintro ⟨c, ⟨s, hs, hc⟩, ht⟩
    exact ⟨s, hs, c, hc, ht⟩

/-- Two ways to fill in a template agree if they agree on the codes that occur in it. -/
theorem fill_congr {t : Template} {text text' : Code → Bytes}
    (h : ∀ s ∈ t.segments, ∀ c ∈ s.code, text c = text' c) : t.fill text = t.fill text' := by
  rw [fill_eq_items, fill_eq_items]
  refine List.flatMap_congr fun i hi ↦ ?_
  cases i with
  | byte b => rfl
  | code c =>
    obtain ⟨s, hs, hc⟩ := mem_items_code_iff.mp hi
    exact h s hs c hc

end Template
end Logline
