import Logline.Pattern.Preset
import Mathlib.Data.List.DropRight
import Mathlib.Data.List.Nodup

/-!
# Names up to blanks and case

A name is looked up without the blanks at its ends and without regard to case.  This file says which
texts a name is found by: those that write it in letters of either case, with blanks around it.

## What is here

* `Text.exists_trimChars` and `Text.trimChars_pad` — trimming cuts blanks off both ends and nothing
  else.
* `Text.Spells` — a text that writes a word, up to blanks at its ends and ASCII case;
  `Text.spells_iff` says it by trimming, and `Text.Spells.trim_eq` the same of any two texts.
* `lookup_eq_some_iff_mem_of_nodup` — what a table says of a name.
* `Preset.pattern?_eq_some_iff` — **the names of the presets**.
-/

set_option autoImplicit false
namespace Logline

namespace Text

/-! ## Trimming -/

theorem trimChars_eq (cs : List Char) :
    trimChars cs = (cs.dropWhile isBlank).rdropWhile isBlank := rfl

/-- What is cut off a text are blanks. -/
theorem exists_trimChars (cs : List Char) :
    ∃ lead trail, cs = lead ++ trimChars cs ++ trail ∧
      (∀ c ∈ lead, isBlank c = true) ∧ ∀ c ∈ trail, isBlank c = true := by
  refine ⟨cs.takeWhile isBlank, (cs.dropWhile isBlank).rtakeWhile isBlank, ?_,
    fun c hc ↦ List.mem_takeWhile_imp hc, fun c hc ↦ List.mem_rtakeWhile_imp hc⟩
  rw [trimChars_eq, List.append_assoc, List.rdropWhile_append_rtakeWhile,
    List.takeWhile_append_dropWhile]

/-- Blanks around a text make no difference to what is left when it is trimmed. -/
theorem trimChars_pad {lead trail : List Char} (hlead : ∀ c ∈ lead, isBlank c = true)
    (htrail : ∀ c ∈ trail, isBlank c = true) (cs : List Char) :
    trimChars (lead ++ cs ++ trail) = trimChars cs := by
  have htrail' : ∀ c ∈ trail.reverse, isBlank c = true := fun c hc ↦
    htrail c (List.mem_reverse.mp hc)
  rw [trimChars_eq, trimChars_eq, List.append_assoc, List.dropWhile_append_of_pos hlead,
    List.dropWhile_append]
  split
  · next hempty => rw [List.isEmpty_iff.mp hempty, List.dropWhile_eq_nil_iff.mpr htrail]
  · rw [List.rdropWhile, List.reverse_append, List.dropWhile_append_of_pos htrail', List.rdropWhile]

/-- Nothing is cut off a word. -/
theorem trimChars_eq_self {word : List Char} (hword : ∀ c ∈ word, isBlank c = false) :
    trimChars word = word := by
  have hfirst : word.dropWhile isBlank = word :=
    List.dropWhile_eq_self_iff.mpr fun hne ↦ Bool.eq_false_iff.mp (hword _ (List.getElem_mem hne))
  rw [trimChars_eq, hfirst, List.rdropWhile_eq_self_iff]
  exact fun hne ↦ Bool.eq_false_iff.mp (hword _ (List.getLast_mem hne))

/-! ## Case -/

/-- No character from the first capital to the last small letter is a blank. -/
theorem not_isBlank_of_letter {c : Char} (hlow : 65 ≤ c.toNat) (hhigh : c.toNat ≤ 122) :
    isBlank c = false := by
  have hranges : ∀ r ∈ blankRanges, r.2 < 65 ∨ 122 < r.1 := by decide
  refine Bool.eq_false_iff.mpr fun hblank ↦ ?_
  obtain ⟨r, hr, h1, h2⟩ := isBlank_iff.mp hblank
  have := hranges r hr
  omega

/-- Bringing ASCII letters to lower case neither makes blanks nor takes any away. -/
theorem isBlank_toLower (c : Char) : isBlank c.toLower = isBlank c := by
  by_cases h : c.val ≥ 'A'.val ∧ c.val ≤ 'Z'.val
  · have hlow : 65 ≤ c.toNat := UInt32.le_iff_toNat_le.mp h.1
    have hhigh : c.toNat ≤ 90 := UInt32.le_iff_toNat_le.mp h.2
    have hval : c.toLower.val = c.val + 32 := congrArg Char.val (dif_pos h)
    have hlower : c.toLower.toNat = c.toNat + 32 := by
      refine (congrArg UInt32.toNat hval).trans ((UInt32.toNat_add _ _).trans (Nat.mod_eq_of_lt ?_))
      exact Nat.lt_of_le_of_lt (Nat.add_le_add_right hhigh 32) (by decide)
    rw [not_isBlank_of_letter (c := c) hlow (by omega),
      not_isBlank_of_letter (c := c.toLower) (by omega) (by omega)]
  · have hsame : c.toLower = c := dif_neg h
    rw [hsame]

/-- Trimming and bringing ASCII letters to lower case do not get in each other's way. -/
theorem trimChars_map_toLower (cs : List Char) :
    trimChars (cs.map Char.toLower) = (trimChars cs).map Char.toLower := by
  have hblank : isBlank ∘ Char.toLower = isBlank := funext isBlank_toLower
  rw [trimChars, trimChars, List.dropWhile_map, hblank, ← List.map_reverse, List.dropWhile_map,
    hblank, List.map_reverse]

/-- A text that writes a word: in letters of either case, with blanks around it.  Only the case of
ASCII letters is disregarded. -/
def Spells (word text : String) : Prop :=
  ∃ lead core trail : List Char, text.toList = lead ++ core ++ trail ∧
    (∀ c ∈ lead, isBlank c = true) ∧ (∀ c ∈ trail, isBlank c = true) ∧
    core.map Char.toLower = word.toList.map Char.toLower

/-- A text that writes a word, or any other text, is the same when it is trimmed, up to case. -/
theorem Spells.trim_eq {word text : String} (h : Spells word text) :
    (trim text).toList.map Char.toLower = (trim word).toList.map Char.toLower := by
  obtain ⟨lead, core, trail, htext, hlead, htrail, hcore⟩ := h
  rw [trim, trim, String.toList_ofList, String.toList_ofList, htext, trimChars_pad hlead htrail,
    ← trimChars_map_toLower, hcore, trimChars_map_toLower]

/-- The texts that write a word without blanks, by what is left of them when they are trimmed. -/
theorem spells_iff {word text : String} (hword : ∀ c ∈ word.toList, isBlank c = false) :
    Spells word text ↔ (trim text).toList.map Char.toLower = word.toList.map Char.toLower := by
  constructor
  · intro h
    rw [h.trim_eq, trim, String.toList_ofList, trimChars_eq_self hword]
  · intro h
    obtain ⟨lead, trail, htext, hlead, htrail⟩ := exists_trimChars text.toList
    rw [trim, String.toList_ofList] at h
    exact ⟨lead, _, trail, htext, hlead, htrail, h⟩

end Text

/-! ## Tables of names -/

/-- In a table that has no name twice, what is found under a name is what stands there. -/
theorem lookup_eq_some_iff_mem_of_nodup {α : Type} {table : List (String × α)}
    (h : (table.map Prod.fst).Nodup) {name : String} {a : α} :
    table.lookup name = some a ↔ (name, a) ∈ table := by
  have hmem : ∀ {b : α}, table.lookup name = some b → (name, b) ∈ table := by
    intro b hb
    obtain ⟨front, back, htable, -⟩ := List.lookup_eq_some_iff.mp hb
    exact htable ▸ List.mem_append_right front List.mem_cons_self
  refine ⟨hmem, fun ha ↦ ?_⟩
  cases hlookup : table.lookup name with
  | none => exact absurd rfl (bne_iff_ne.mp (List.lookup_eq_none_iff.mp hlookup _ ha))
  | some b =>
    have heq := List.inj_on_of_nodup_map h (hmem hlookup) ha rfl
    exact congrArg some (congrArg Prod.snd heq)

/-! ## Presets -/

namespace Preset

theorem not_isBlank_of_mem_all {p : String × String} (hp : p ∈ all) :
    ∀ c ∈ p.1.toList, Text.isBlank c = false := by
  have hall : (all.all fun p ↦ p.1.toList.all fun c ↦ !Text.isBlank c) = true := by decide
  intro c hc
  have hp' := List.all_eq_true.mp hall p hp
  exact Bool.not_eq_eq_eq_not.mp (List.all_eq_true.mp hp' c hc)

theorem sameName_iff {a b : String} :
    sameName a b = true ↔ a.toList.map Char.toLower = b.toList.map Char.toLower := beq_iff_eq

theorem eq_of_sameName : ∀ p ∈ all, ∀ q ∈ all, sameName p.1 q.1 = true → p = q := by decide

/-- **The names of the presets.**  A text names a preset exactly if it writes the name of one, up to
blanks at its ends and ASCII case. -/
theorem pattern?_eq_some_iff {name pattern : String} :
    pattern? name = some pattern ↔ ∃ key, (key, pattern) ∈ all ∧ Text.Spells key name := by
  have hspells : ∀ p ∈ all, Text.Spells p.1 name ↔ sameName p.1 (Text.trim name) = true :=
    fun p hp ↦ by rw [Text.spells_iff (not_isBlank_of_mem_all hp), sameName_iff, eq_comm]
  rw [pattern?, Option.map_eq_some_iff]
  constructor
  · rintro ⟨p, hfind, rfl⟩
    have hp : p ∈ all := List.mem_of_find?_eq_some hfind
    have hsame := List.find?_some hfind
    exact ⟨p.1, hp, (hspells p hp).mpr hsame⟩
  · rintro ⟨key, hmem, hkey⟩
    have hsame : sameName key (Text.trim name) = true := (hspells _ hmem).mp hkey
    cases hfind : all.find? fun p ↦ sameName p.1 (Text.trim name) with
    | none => exact absurd hsame (List.find?_eq_none.mp hfind _ hmem)
    | some q =>
      have hq := List.find?_some hfind
      have hqkey : sameName q.1 key = true :=
        sameName_iff.mpr ((sameName_iff.mp hq).trans (sameName_iff.mp hsame).symm)
      exact ⟨q, rfl, congrArg Prod.snd
        (eq_of_sameName q (List.mem_of_find?_eq_some hfind) (key, pattern) hmem hqkey)⟩

end Preset
end Logline
