import Logline.Proofs.Names
import Logline.Text.Lowercase
import Mathlib

/-!
# Words in lower case

A word of a table is found in a text that is trimmed and brought to lower case.  The table holds
ASCII, whereas the text may hold anything, and lower case is Unicode's: it could let in texts that
nobody takes for one of the words.  It lets in none as long as no word has a `k` in it, because the
lower-case form of a character outside ASCII has a character outside ASCII in it too, but for that
of the Kelvin sign.

A capital sigma has two small ones, and which of them it becomes at the end of a word depends on its
neighbours.  `Text.lower` does not look at them.  That cannot be told from a look-up, and so
everything here is about either form.

## What is here

* `Text.lowerChar_of_ascii` and `Text.lowerChar_of_not_ascii` — characters in ASCII and outside of
  it.
* `Text.LowersTo` — a text and its lower-case forms; `Text.LowersTo.eq_iff` says **which texts
  become a word**.
* `Text.find` — what a text stands for in a table of words.  `Text.Legible.find_eq_ok_iff` says
  **which texts are found**, `Text.Legible.lookup_eq_toOption_find` that either small sigma will do,
  and `Text.Legible.toOption_find_congr` that blanks and case do not matter.
-/

set_option autoImplicit false
namespace Logline
namespace Text

/-! ## Characters -/

/-- The capitals of ASCII, each with its small letter. -/
def CaseRange.ascii : CaseRange := ⟨65, 90, 1, 32⟩

/-- A range of characters outside ASCII whose lower-case forms are outside ASCII too, unless it is
one character, and its form a `k`. -/
def CaseRange.Foreign (r : CaseRange) : Prop :=
  128 ≤ r.first ∧ (r.last + r.shift < 0xD800 ∨ 0xDFFF < r.first + r.shift) ∧
    r.last + r.shift < 0x110000 ∧
    (128 ≤ r.first + r.shift ∨ r.first = r.last ∧ r.first + r.shift = 'k'.toNat)

instance (r : CaseRange) : Decidable r.Foreign := by
  unfold CaseRange.Foreign
  infer_instance

theorem lowerRanges_eq : lowerRanges = .ascii :: lowerRanges.tail := rfl

theorem foreign_of_mem_tail : ∀ r ∈ lowerRanges.tail, r.Foreign := by decide +kernel

theorem covers_ascii_iff {c : Char} : CaseRange.ascii.Covers c.toNat ↔ c.isUpper = true := by
  simp [CaseRange.ascii, CaseRange.Covers, Char.isUpper, UInt32.le_iff_toNat_le, Nat.mod_one]

/-- **Lower case in ASCII** is a matter of the letters from A to Z. -/
theorem lowerChar_of_ascii {c : Char} (h : c.toNat < 128) : lowerChar c = [c.toLower] := by
  rw [lowerChar, if_neg (by omega)]
  by_cases hupper : c.isUpper = true
  · have hfind : (lowerRanges.find? fun r ↦ decide (r.Covers c.toNat)) = some .ascii :=
      List.find?_cons_of_pos (decide_eq_true (covers_ascii_iff.mpr hupper))
    have himage : CaseRange.ascii.image c.toNat = c.toNat + 32 := rfl
    rw [hfind, Char.toLower_eq_of_isUpper hupper, ← himage]
  · have hfind : (lowerRanges.find? fun r ↦ decide (r.Covers c.toNat)) = none := by
      rw [lowerRanges_eq, List.find?_eq_none, List.forall_mem_cons]
      refine ⟨by rwa [decide_eq_true_eq, covers_ascii_iff], fun r hr ↦ ?_⟩
      have hfirst := (foreign_of_mem_tail r hr).1
      rw [decide_eq_true_eq, CaseRange.Covers]
      omega
    rw [hfind, Char.toLower_eq_of_not_isUpper hupper]

/-- **Lower case outside ASCII** does not lead into it, except to a `k`. -/
theorem lowerChar_of_not_ascii {c : Char} (h : 128 ≤ c.toNat) :
    ∃ d ∈ lowerChar c, 128 ≤ d.toNat ∨ d = 'k' := by
  rw [lowerChar]
  split
  · exact ⟨Char.ofNat 0x307, by decide, .inl (by decide)⟩
  · split
    · next r hfind =>
      have hmem : r ∈ CaseRange.ascii :: lowerRanges.tail := List.mem_of_find?_eq_some hfind
      have hcovers := List.find?_some hfind
      rw [decide_eq_true_eq] at hcovers
      obtain ⟨hlow, hhigh, -⟩ := hcovers
      obtain rfl | htail := List.mem_cons.mp hmem
      · exact absurd hhigh (Nat.not_le.mpr (Nat.lt_of_lt_of_le (by decide) h))
      · obtain ⟨-, hgap, hend, hform⟩ := foreign_of_mem_tail r htail
        refine ⟨_, List.mem_singleton_self _, ?_⟩
        obtain hout | ⟨hone, hk⟩ := hform
        · left
          -- the gap of the surrogates is not in the way, so that the number is one of a character
          have hvalid : (r.image c.toNat).isValidChar := by
            rw [CaseRange.image, Nat.isValidChar]
            omega
          rw [Char.toNat_ofNat, if_pos hvalid, CaseRange.image]
          omega
        · right
          have himage : r.image c.toNat = 'k'.toNat := by
            rw [CaseRange.image]
            omega
          rw [himage, Char.ofNat_toNat]
    · exact ⟨c, List.mem_singleton_self c, .inl h⟩

theorem toLower_of_not_ascii {c : Char} (h : 128 ≤ c.toNat) : c.toLower = c := by
  refine Char.toLower_eq_of_not_isUpper fun hupper ↦ ?_
  rw [← covers_ascii_iff] at hupper
  exact absurd hupper.2.1 (Nat.not_le.mpr (Nat.lt_of_lt_of_le (by decide) h))

/-! ## Texts -/

/-- A text and a lower-case form of it.  A capital sigma has two small ones, and which of them it
becomes is left open. -/
inductive LowersTo : List Char → List Char → Prop
  | nil : LowersTo [] []
  | cons {c : Char} {cs ds : List Char} (h : LowersTo cs ds) : LowersTo (c :: cs) (lowerChar c ++ ds)
  | finalSigma {cs ds : List Char} (h : LowersTo cs ds) : LowersTo ('Σ' :: cs) ('ς' :: ds)

theorem lowersTo_lowerChars (cs : List Char) : LowersTo cs (lowerChars cs) := by
  induction cs with
  | nil => exact .nil
  | cons c cs ih => exact .cons ih

/-- A word that nothing else becomes in lower case: small letters and digits of ASCII, without a
`k`. -/
def IsWord (word : List Char) : Prop :=
  ∀ c ∈ word, (c.toNat < 128 ∧ c ≠ 'k') ∧ c.toLower = c ∧ isBlank c = false

instance (word : List Char) : Decidable (IsWord word) := by
  unfold IsWord
  exact List.decidableBAll _ word

namespace IsWord

theorem not_mem {word : List Char} (h : IsWord word) {c : Char} (hc : 128 ≤ c.toNat) : c ∉ word :=
  fun hmem ↦ absurd (h c hmem).1.1 (Nat.not_lt.mpr hc)

theorem map_toLower {word : List Char} (h : IsWord word) : word.map Char.toLower = word :=
  (List.map_congr_left fun c hc ↦ (h c hc).2.1).trans (List.map_id' word)

/-- No word starts with a character outside ASCII. -/
theorem toLower_cons_ne {word : List Char} (h : IsWord word) {c : Char} (hc : 128 ≤ c.toNat)
    (cs : List Char) : c.toLower :: cs ≠ word := by
  rintro rfl
  rw [toLower_of_not_ascii hc] at h
  exact h.not_mem hc List.mem_cons_self

end IsWord

/-- **Which texts become a word** in lower case: the word itself, in letters of either case. -/
theorem LowersTo.eq_iff {cs ds word : List Char} (h : LowersTo cs ds) (hword : IsWord word) :
    ds = word ↔ cs.map Char.toLower = word := by
  induction h generalizing word with
  | nil => exact Iff.rfl
  | @cons c cs ds h ih =>
    rw [List.map_cons]
    obtain hc | hc := Nat.lt_or_ge c.toNat 128
    · rw [lowerChar_of_ascii hc, List.singleton_append]
      cases word with
      | nil => exact iff_of_false (List.cons_ne_nil _ _) (List.cons_ne_nil _ _)
      | cons d word =>
        rw [List.cons.injEq, List.cons.injEq, ih (List.forall_mem_cons.mp hword).2]
    · -- both sides are false: neither form of the character is in a word
      refine iff_of_false ?_ (hword.toLower_cons_ne hc _)
      rintro rfl
      obtain ⟨d, hd, hout | rfl⟩ := lowerChar_of_not_ascii hc
      · exact hword.not_mem hout (List.mem_append_left ds hd)
      · exact (hword _ (List.mem_append_left ds hd)).1.2 rfl
  | @finalSigma cs ds h ih =>
    refine iff_of_false ?_ (hword.toLower_cons_ne (by decide) _)
    rintro rfl
    exact hword.not_mem (by decide) List.mem_cons_self

/-- It does not matter in which case a word is given. -/
theorem spells_map_toLower_iff {word text : String} :
    Spells (String.ofList (word.toList.map Char.toLower)) text ↔ Spells word text := by
  have htwice : (word.toList.map Char.toLower).map Char.toLower = word.toList.map Char.toLower := by
    rw [List.map_map]
    exact List.map_congr_left fun c _ ↦ Char.toLower_toLower_eq_toLower c
  rw [Spells, Spells, String.toList_ofList, htwice]

/-! ## Tables of words -/

section Tables

variable {α ε : Type} {table : List (String × α)}

/-- What a text stands for in a table of words, or a complaint. -/
def find (table : List (String × α)) (e : ε) (text : String) : Except ε α :=
  match table.lookup (lower (trim text)) with
  | some a => .ok a
  | none => .error e

theorem find_eq_ok_iff_lookup {e : ε} {text : String} {a : α} :
    find table e text = .ok a ↔ table.lookup (lower (trim text)) = some a := by
  rw [find]
  cases table.lookup (lower (trim text)) <;> simp

theorem find_eq_error {e : ε} {text : String} (h : ∀ a, find table e text ≠ .ok a) :
    find table e text = .error e := by
  cases hfind : find table e text with
  | ok a => exact absurd hfind (h a)
  | error e' =>
    rw [find] at hfind
    split at hfind
    · cases hfind
    · exact hfind.symm

theorem toOption_find (e : ε) (text : String) :
    (find table e text).toOption = table.lookup (lower (trim text)) := by
  rw [find]
  cases table.lookup (lower (trim text)) <;> rfl

/-- A table that can be looked up by texts in lower case. -/
structure Legible (table : List (String × α)) : Prop where
  isWord : ∀ p ∈ table, IsWord p.1.toList
  nodup : (table.map Prod.fst).Nodup

namespace Legible

theorem spells_iff (h : Legible table) {p : String × α} (hp : p ∈ table) {text : String} :
    Spells p.1 text ↔ (trim text).toList.map Char.toLower = p.1.toList := by
  have hword := h.isWord p hp
  rw [Text.spells_iff fun c hc ↦ (hword c hc).2.2, hword.map_toLower]

/-- Any lower-case form of a trimmed text finds the words that the text writes. -/
theorem lookup_eq_some_iff (h : Legible table) {text key : String}
    (hkey : LowersTo (trim text).toList key.toList) {a : α} :
    table.lookup key = some a ↔ ∃ word, (word, a) ∈ table ∧ Spells word text := by
  have hspells : ∀ p ∈ table, Spells p.1 text ↔ key = p.1 := by
    intro p hp
    rw [h.spells_iff hp, ← hkey.eq_iff (h.isWord p hp), String.toList_inj]
  rw [lookup_eq_some_iff_mem_of_nodup h.nodup]
  constructor
  · intro hmem
    exact ⟨key, hmem, (hspells _ hmem).mpr rfl⟩
  · rintro ⟨word, hmem, hword⟩
    rwa [(hspells _ hmem).mp hword]

/-- **Which texts are found in a table**: those that write one of its words, up to blanks at the
ends and ASCII case. -/
theorem find_eq_ok_iff (h : Legible table) {e : ε} {text : String} {a : α} :
    find table e text = .ok a ↔ ∃ word, (word, a) ∈ table ∧ Spells word text := by
  rw [find_eq_ok_iff_lookup, h.lookup_eq_some_iff]
  rw [lower, String.toList_ofList]
  exact lowersTo_lowerChars _

/-- It does not matter which lower-case form of a text is looked up. -/
theorem lookup_eq_toOption_find (h : Legible table) (e : ε) {text key : String}
    (hkey : LowersTo (trim text).toList key.toList) :
    table.lookup key = (find table e text).toOption := by
  refine Option.ext fun a ↦ ?_
  rw [h.lookup_eq_some_iff hkey, toOption_find, ← find_eq_ok_iff_lookup (e := e), h.find_eq_ok_iff]

/-- Texts that are the same up to blanks at the ends and ASCII case find the same. -/
theorem toOption_find_congr (h : Legible table) (e e' : ε) {text text' : String}
    (hspells : Spells text text') :
    (find table e' text').toOption = (find table e text).toOption := by
  have hword : ∀ p ∈ table, Spells p.1 text' ↔ Spells p.1 text := fun p hp ↦ by
    rw [h.spells_iff hp, h.spells_iff hp, hspells.trim_eq]
  refine Option.ext fun a ↦ ?_
  rw [toOption_find, toOption_find, ← find_eq_ok_iff_lookup (e := e),
    ← find_eq_ok_iff_lookup (e := e), h.find_eq_ok_iff, h.find_eq_ok_iff]
  exact exists_congr fun word ↦ and_congr_right fun hmem ↦ hword (word, a) hmem

/-- What is found is ASCII when it is trimmed. -/
theorem ascii_of_find (h : Legible table) {e : ε} {text : String} {a : α}
    (ha : find table e text = .ok a) : ∀ c ∈ (trim text).toList, c.toNat < 128 := by
  obtain ⟨word, hmem, hword⟩ := h.find_eq_ok_iff.mp ha
  rw [h.spells_iff hmem] at hword
  intro c hc
  by_contra hlt
  have hfar := Nat.le_of_not_lt hlt
  refine (h.isWord _ hmem).not_mem hfar (hword ▸ ?_)
  exact List.mem_map.mpr ⟨c, hc, toLower_of_not_ascii hfar⟩

end Legible

end Tables

end Text
end Logline
