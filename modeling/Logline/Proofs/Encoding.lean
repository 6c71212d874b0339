import Logline.Proofs.Timestamp
import Mathlib.Data.List.Chain

/-!
# Renderings that are text

A pattern that is text may well be rendered as bytes that are not: a percent sign takes one byte for
its code, and if a character of several bytes stands there, only the first of them is taken away.
This file shows that nothing else can go wrong.

The walk over the pattern goes byte by byte, and the pattern is a text, so the steps are put
together to one for each character: a character is copied, or replaced by the text of a code, or
dropped, or cut.  Whether it is cut depends on the character before it alone.

## What is here

* `Pattern.expand_copied`, `expand_percent`, `expand_code` and `expand_cut` — what the walk makes of
  one character.
* `Pattern.isText_expand_iff` — **the patterns that are rendered as text**, if all codes are.
* `Record.isText_field` — all codes are, in a year of four digits.
* `Stage.isText_rendered_iff` — the same after any history.
-/

set_option autoImplicit false
namespace Logline

/-! ## One character of a pattern -/

theorem toUInt8_eq_percent_iff {c : Char} (h : c.toNat < 128) : c.toUInt8 = percent ↔ c = '%' := by
  refine ⟨fun hc ↦ Char.toNat_inj.mp ?_, fun hc ↦ hc ▸ rfl⟩
  rw [← Bytes.toNat_toUInt8 h, hc]
  rfl

/-- The only character with a percent sign among its bytes is the percent sign. -/
theorem percent_not_mem_utf8EncodeChar {c : Char} (h : c ≠ '%') :
    percent ∉ String.utf8EncodeChar c := by
  intro hmem
  by_cases hascii : c.toNat < 128
  · rw [Bytes.utf8EncodeChar_ascii hascii, List.mem_singleton, eq_comm] at hmem
    exact h ((toUInt8_eq_percent_iff hascii).mp hmem)
  · exact absurd (Bytes.le_of_mem_utf8EncodeChar (Nat.le_of_not_lt hascii) hmem) (by decide)

/-- No byte above ASCII is a code. -/
theorem Code.ofByte?_eq_none {b : UInt8} (h : 128 ≤ b) : ofByte? b = none := by
  refine Option.eq_none_iff_forall_ne_some.mpr fun c hc ↦ ?_
  obtain rfl | ⟨rfl, -⟩ := ofByte?_eq_some_iff.mp hc
  · cases c <;> exact absurd h (by decide)
  · exact absurd h (by decide)

namespace Pattern

variable (text : Code → Bytes)

theorem expand_append_of_not_mem {a : Bytes} (h : percent ∉ a) (b : Bytes) :
    expand text false (a ++ b) = a ++ expand text false b := by
  induction a with
  | nil => rfl
  | cons x a ih =>
    rw [List.mem_cons, not_or] at h
    rw [List.cons_append, expand, if_neg (Ne.symm h.1), ih h.2]
    rfl

/-- Outside a code, a character other than the percent sign is copied. -/
theorem expand_copied {c : Char} (h : c ≠ '%') (cs : List Char) :
    expand text false (Bytes.ofChars (c :: cs)) =
      Bytes.ofChars [c] ++ expand text false (Bytes.ofChars cs) := by
  have hnot : percent ∉ Bytes.ofChars [c] := by
    rw [Bytes.ofChars, List.flatMap_singleton]
    exact percent_not_mem_utf8EncodeChar h
  rw [← List.singleton_append, Bytes.ofChars_append, expand_append_of_not_mem text hnot]

/-- A percent sign opens a code, be one open already or not. -/
theorem expand_percent (opened : Bool) (cs : List Char) :
    expand text opened (Bytes.ofChars ('%' :: cs)) = expand text true (Bytes.ofChars cs) := by
  have hbytes : Bytes.ofChars ('%' :: cs) = percent :: Bytes.ofChars cs := rfl
  rw [hbytes, expand, if_pos rfl]

/-- Behind a percent sign, an ASCII character is replaced. -/
theorem expand_code {c : Char} (hascii : c.toNat < 128) (h : c ≠ '%') (cs : List Char) :
    expand text true (Bytes.ofChars (c :: cs)) =
      ((Code.ofByte? c.toUInt8).map text).getD [] ++ expand text false (Bytes.ofChars cs) := by
  have hbytes : Bytes.ofChars (c :: cs) = c.toUInt8 :: Bytes.ofChars cs := by
    rw [Bytes.ofChars, List.flatMap_cons, Bytes.utf8EncodeChar_ascii hascii]
    rfl
  rw [hbytes, expand, if_neg fun hc ↦ h ((toUInt8_eq_percent_iff hascii).mp hc), if_pos rfl]

/-- Behind a percent sign, a character outside ASCII loses its first byte. -/
theorem expand_cut {c : Char} {lead : UInt8} {rest : Bytes} (hascii : 128 ≤ c.toNat)
    (h : String.utf8EncodeChar c = lead :: rest) (cs : List Char) :
    expand text true (Bytes.ofChars (c :: cs)) = rest ++ expand text false (Bytes.ofChars cs) := by
  have hpercent : percent ∉ lead :: rest := by
    rw [← h]
    refine percent_not_mem_utf8EncodeChar ?_
    rintro rfl
    exact absurd hascii (by decide)
  rw [List.mem_cons, not_or] at hpercent
  have hlead : Code.ofByte? lead = none :=
    Code.ofByte?_eq_none (Bytes.le_of_mem_utf8EncodeChar hascii (h ▸ List.mem_cons_self))
  rw [Bytes.ofChars, List.flatMap_cons, h, ← Bytes.ofChars, List.cons_append, expand,
    if_neg (Ne.symm hpercent.1), if_pos rfl, hlead, expand_append_of_not_mem text hpercent.2]
  rfl

/-! ## Whole patterns -/

/-- Two characters may follow each other in a pattern if the second is not cut. -/
def MayFollow (a b : Char) : Prop := a = '%' → b.toNat < 128

/-- **The patterns that are rendered as text**: those in which no percent sign stands in front of a
character outside ASCII.  `before` is the character in front of the pattern. -/
theorem isText_expand_iff {text : Code → Bytes} (htext : ∀ c, Bytes.IsText (text c))
    (before : Char) (cs : List Char) :
    Bytes.IsText (expand text (decide (before = '%')) (Bytes.ofChars cs)) ↔
      (before :: cs).IsChain MayFollow := by
  -- The walk has a code open exactly if the character before is a percent sign, so that character
  -- stands in for its state.
  induction cs generalizing before with
  | nil => exact iff_of_true Bytes.IsText.nil (.singleton before)
  | cons c cs ih =>
    have hrest := ih c
    rw [List.isChain_cons_cons, ← hrest]
    by_cases hc : c = '%'
    · have hfollows : MayFollow before c := fun _ ↦ hc ▸ by decide
      subst hc
      rw [expand_percent]
      exact (and_iff_right hfollows).symm
    rw [decide_eq_false hc]
    by_cases hbefore : before = '%'
    · rw [decide_eq_true hbefore]
      by_cases hascii : c.toNat < 128
      · have hcode : Bytes.IsText (((Code.ofByte? c.toUInt8).map text).getD []) := by
          cases Code.ofByte? c.toUInt8 with
          | none => exact Bytes.IsText.nil
          | some code => exact htext code
        rw [expand_code text hascii hc, hcode.append_iff]
        exact (and_iff_right fun _ ↦ hascii).symm
      · obtain ⟨lead, next, rest, hbytes, hnot⟩ :=
          Bytes.exists_utf8EncodeChar (Nat.le_of_not_lt hascii)
        rw [expand_cut text (Nat.le_of_not_lt hascii) hbytes]
        exact iff_of_false (hnot _) fun h ↦ hascii (h.1 hbefore)
    · have hcopied : Bytes.IsText (Bytes.ofChars [c]) := ⟨[c], rfl⟩
      rw [decide_eq_false hbefore, expand_copied text hc, hcopied.append_iff]
      exact (and_iff_right fun h ↦ absurd h hbefore).symm

/-- The same for a whole pattern, said by its pairs of neighbours. -/
theorem isText_expand_ofText_iff {text : Code → Bytes} (htext : ∀ c, Bytes.IsText (text c))
    (p : String) :
    Bytes.IsText (expand text false (Bytes.ofText p)) ↔
      ∀ before c after, p.toList = before ++ '%' :: c :: after → c.toNat < 128 := by
  -- any character but a percent sign can stand in front
  have hstart := isText_expand_iff htext ' ' p.toList
  have hfirst : ∀ c ∈ p.toList.head?, MayFollow ' ' c := fun c _ h ↦ absurd h (by decide)
  rw [List.isChain_cons, and_iff_right hfirst,
    List.isChain_iff_forall_rel_of_append_cons_cons] at hstart
  refine hstart.trans ⟨fun h before c after hp ↦ h hp rfl, ?_⟩
  rintro h a c before after hp rfl
  exact h before c after hp

end Pattern

/-! ## What stands for the codes -/

namespace Digits

theorem isText_pair {n : Nat} (h : n < 100) : Bytes.IsText (pair n) :=
  (fits_pair h).isText (by decide)

theorem isText_triple {a b c : Nat} (ha : a < 100) (hb : b < 100) (hc : c < 100) {sep : UInt8}
    (hsep : sep.toNat < 128) : Bytes.IsText (triple a b c sep) :=
  ((isText_pair ha).append (.cons_ascii hsep (isText_pair hb))).append
    (.cons_ascii hsep (isText_pair hc))

theorem isText_date {cc yy mm dd : Nat} (hcc : cc < 100) (hyy : yy < 100) (hmm : mm < 100)
    (hdd : dd < 100) {sep : UInt8} (hsep : sep.toNat < 128) :
    Bytes.IsText (date cc yy mm dd sep) :=
  (((isText_pair hcc).append (isText_pair hyy)).append (.cons_ascii hsep (isText_pair hmm))).append
    (.cons_ascii hsep (isText_pair hdd))

theorem isText_number (n width : Nat) : Bytes.IsText (number n width) :=
  (fits_fill maxPlaces n (min width maxPlaces)).isText (by simp [List.all_replicate])

end Digits

namespace Offset

/-- Both ways to write an offset are. -/
theorem isText_compact_and_spaced {o : Int} (h : o.natAbs < 86400) :
    Bytes.IsText (compact o) ∧ Bytes.IsText (spaced o) := by
  have hshows := shows_pairs h
  have hhour := hshows.fits_hours.isText (by decide)
  have hminute := hshows.fits_minutes.isText (by decide)
  have hsign : (sign o).toNat < 128 := by
    rcases hshows.sign_cases with ⟨hsign, -⟩ | ⟨hsign, -⟩ <;> rw [hsign] <;> decide
  exact ⟨(Bytes.IsText.cons_ascii hsign hhour).append hminute,
    (Bytes.IsText.cons_ascii hsign hhour).append (.cons_ascii (by decide) hminute)⟩

end Offset

namespace ZoneText

/-- Both zone texts are. -/
theorem isText_ofOffset {o : Int} (h : o.natAbs < 86400) (name : Option String) (utc : Bool) :
    Bytes.IsText (ofOffset o name utc).short ∧ Bytes.IsText (ofOffset o name utc).long := by
  obtain ⟨hcompact, hspaced⟩ := Offset.isText_compact_and_spaced h
  cases utc with
  | true => exact ⟨.ofText "UTC", .ofText "Z"⟩
  | false =>
    have hlong : Bytes.IsText (if o = 0 then Bytes.ofText "Z" else Offset.spaced o) := by
      split
      · exact .ofText "Z"
      · exact hspaced
    cases name with
    | none => exact ⟨hcompact, hlong⟩
    | some s => exact ⟨.ofText s, hlong⟩

end ZoneText

/-- **All codes stand for text**, in a year of four digits. -/
theorem Record.isText_field (r : Record) {m : Moment} (hm : m.Valid) (h0 : 0 ≤ m.year)
    (h1 : m.year ≤ 9999) {zone : ZoneText}
    (hzone : Bytes.IsText zone.short ∧ Bytes.IsText zone.long) (c : Code) :
    Bytes.IsText (r.field m zone c) := by
  obtain ⟨hcentury, hyear, -⟩ := Moment.century_spec h0 h1
  obtain ⟨hmonth, hday, hhour, hminute, hsecond⟩ := hm.lt_hundred
  have hclock : Bytes.IsText m.clock := Digits.isText_triple hhour hminute hsecond (by decide)
  cases c with
  | timeMicros => exact hclock.append (.cons_ascii (by decide) (Digits.isText_number _ _))
  | time => exact hclock
  | hour | minute | levelNum | line => exact Digits.isText_number _ _
  | zoneLong => exact hzone.2
  | zoneShort => exact hzone.1
  | dateSlash | dateDash => exact Digits.isText_date hcentury hyear hmonth hday (by decide)
  | dateShort => exact Digits.isText_triple hday hmonth hyear (by decide)
  | level | component | source | shortSource | message => exact .ofText _
  | tab | carriageReturn | newline => exact .cons_ascii (by decide) .nil

/-! ## After any history -/

namespace Stage

/-- The steps that set a pattern that is text: outright, or as the value of an option. -/
inductive Step.SetsText (p : String) : Step → Prop
  | outright : SetsText p (.setPattern p)
  | option {name : String} (h : name = "pattern" ∨ name = "format") :
    SetsText p (.setOption name (.string p))
  | tried {name : String} (h : name = "pattern" ∨ name = "format") :
    SetsText p (.trySetOption name (.string p))

theorem Step.SetsText.pattern?_eq {p : String} {x : Step} (h : x.SetsText p) :
    x.pattern? = some (Bytes.ofText p) := by
  cases h with
  | outright => rfl
  | option h | tried h => exact if_pos h

/-- What a step says stands as long as no later step says anything. -/
theorem latest_append_cons {α : Type} {f : Step → Option α} {x : Step} {a : α} (h : f x = some a)
    (initial : α) (xs : List Step) {later : List Step} (hlater : ∀ y ∈ later, f y = none) :
    latest f initial (xs ++ x :: later) = a := by
  rw [latest, List.filterMap_append, List.filterMap_cons_some h,
    List.filterMap_eq_nil_iff.mpr hlater, List.getLastD_concat]

/-- **When a rendering is text.**  Take any history in which a pattern is set that is text, and no
other one after it, and a record whose year has four digits.  The record is rendered, and the bytes
are valid UTF-8 exactly if no percent sign of the pattern stands right in front of a character
outside ASCII. -/
theorem isText_rendered_iff (o : Layout.Origin) (host : HostZone) (xs : List Step) {x : Step}
    {p : String} (hx : x.SetsText p) {later : List Step} (hlater : ∀ y ∈ later, y.pattern? = none)
    (r : Record) :
    let l := ((ofOrigin host o).after (xs ++ x :: later)).layout
    0 ≤ (r.moment l.utc).year → (r.moment l.utc).year ≤ 9999 →
      ∃ b, l.format (some r) = .ok b ∧ ((∃ s, Bytes.toText? b = some s) ↔
        ∀ before c after, p.toList = before ++ '%' :: c :: after → c.toNat < 128) := by
  intro l h0 h1
  have hstage := remembers_after o host (xs ++ x :: later)
  have htemplate : l.template = Template.compile (Bytes.ofText p) := by
    rw [hstage.template, latest_append_cons hx.pattern?_eq _ xs hlater]
  have hzone : Bytes.IsText l.zone.short ∧ Bytes.IsText l.zone.long :=
    hstage.zone ▸ ZoneText.isText_ofOffset (HostZone.offset_lt _) _ _
  have htext : ∀ c, Bytes.IsText (r.field (r.moment l.utc) l.zone c) :=
    r.isText_field (r.valid_moment l.utc) h0 h1 hzone
  refine ⟨l.template.fill (r.field (r.moment l.utc) l.zone), ?_, ?_⟩
  · rw [Layout.format_some, if_pos (Layout.renders_of_year h0 h1)]
  · rw [Bytes.exists_toText?_iff, htemplate, Template.fill_compile,
      Pattern.isText_expand_ofText_iff htext]

/-- A pattern that cuts a letter in two, set as an option and kept through a value that is no
pattern and a change of the time mode: all of the line is text but its last byte. -/
theorem isText_rendered_cut :
    let r : Record := { message := "größer" }
    let l := ((ofOrigin ⟨20700, none, by decide⟩ .default).after
      [.setUtc true, .trySetOption "format" (.string "é%M%%n%ö"), .setOption "format" .null,
        .setUtc false]).layout
    l.format (some r) = .ok (Bytes.ofText "égrößer\n" ++ [0xB6]) ∧
      ¬ ∃ s, Bytes.toText? (Bytes.ofText "égrößer\n" ++ [0xB6]) = some s := by
  intro r l
  have hformat : l.format (some r) = .ok (Bytes.ofText "égrößer\n" ++ [0xB6]) := by decide
  have hlater : ∀ y ∈ [Step.setOption "format" .null, .setUtc false], y.pattern? = none := by decide
  obtain ⟨b, hb, htext⟩ := isText_rendered_iff .default ⟨20700, none, by decide⟩ [.setUtc true]
    (.tried (p := "é%M%%n%ö") (.inr rfl)) hlater r (by decide) (by decide)
  obtain rfl : Bytes.ofText "égrößer\n" ++ [0xB6] = b := Except.ok.inj (hformat.symm.trans hb)
  refine ⟨hformat, fun h ↦ absurd (htext.mp h "é%M%%n".toList 'ö' [] (by decide)) (by decide)⟩

end Stage
end Logline
