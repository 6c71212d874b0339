import Logline.Config
import Logline.Proofs.Lowercase

/-!
# Levels from free text

Fifteen words name a level: the name of each, its label, which is the same word for two of them, and
one word more.  A text that is not one of them, up to blanks at the ends and case, names no level.
A configuration then falls back on the default level, whereas everyone else gets a complaint that
shows the text as it was.

## What is here

* `Level.mem_spellings_iff` — the fifteen words.
* `Level.ofText_eq_ok_iff` and `Level.ofText_eq_error` — **which texts name a level**, and what
  becomes of the others.
* `Level.ofText_exact` — **what a text names**, on its own and in a configuration.
-/

set_option autoImplicit false
namespace Logline
namespace Level

/-! ## The words -/

theorem legible_spellings : Text.Legible spellings := ⟨by decide, by decide⟩

/-- The words that name a level: its name, its label in lower case, and three shorter ones, two of
which are labels too. -/
theorem mem_spellings_iff {word : String} {l : Level} : (word, l) ∈ spellings ↔
    word = l.name ∨ word = String.ofList (l.label.toList.map Char.toLower) ∨
      (word, l) ∈ [("warn", warning), ("err", error), ("crit", critical)] := by
  cases l <;> simp [spellings, name, label]

/-! ## Looking them up -/

/-- A text is looked up among the words. -/
theorem ofText_eq (s : String) : ofText s = Text.find spellings ⟨s⟩ s := by
  rw [ofText, Text.find]
  cases spellings.lookup (Text.lower (Text.trim s)) <;> rfl

/-- **Which texts name a level**: those that write one of the words, up to blanks at the ends and
ASCII case. -/
theorem ofText_eq_ok_iff {s : String} {l : Level} :
    ofText s = .ok l ↔ ∃ word, (word, l) ∈ spellings ∧ Text.Spells word s := by
  rw [ofText_eq, legible_spellings.find_eq_ok_iff]

theorem ofText_eq_error {s : String} (h : ∀ l, ofText s ≠ .ok l) : ofText s = .error ⟨s⟩ := by
  rw [ofText_eq] at h ⊢
  exact Text.find_eq_error h

/-- Names and labels name their levels. -/
theorem ofText_of_spells {s : String} {l : Level}
    (h : Text.Spells l.name s ∨ Text.Spells l.label s) : ofText s = .ok l := by
  rw [ofText_eq_ok_iff]
  rcases h with h | h
  · exact ⟨l.name, mem_spellings_iff.mpr (.inl rfl), h⟩
  · exact ⟨_, mem_spellings_iff.mpr (.inr (.inl rfl)), Text.spells_map_toLower_iff.mpr h⟩

/-- **What a text names.**  Fifteen words name a level: the name of each, its label in lower case,
and `warn`, `err` and `crit`.  A text names a level exactly if it writes a word for it, up to blanks
at the ends and ASCII case; so every name and every label names its level in letters of either case,
with blanks around it, and no text does that is not ASCII when it is trimmed, whichever small sigma
a capital one becomes.  The complaint about any other text has the text in it as it was given.  In a
configuration, a text that names a level stands for it, and any other one for the level of ordinary
messages. -/
theorem ofText_exact :
    (spellings.length = 15 ∧ (spellings.map Prod.fst).Nodup ∧ ∀ word l, (word, l) ∈ spellings ↔
      word = l.name ∨ word = String.ofList (l.label.toList.map Char.toLower) ∨
        (word, l) ∈ [("warn", warning), ("err", error), ("crit", critical)]) ∧
    (∀ s l, ofText s = .ok l ↔ ∃ word, (word, l) ∈ spellings ∧ Text.Spells word s) ∧
    (∀ s l, Text.Spells l.name s ∨ Text.Spells l.label s → ofText s = .ok l) ∧
    (∀ s l, ofText s = .ok l → ∀ c ∈ (Text.trim s).toList, c.toNat < 128) ∧
    (∀ s key, Text.LowersTo (Text.trim s).toList key.toList →
      spellings.lookup key = (ofText s).toOption) ∧
    (∀ s, (∀ l, ofText s ≠ .ok l) →
      ∃ e, ofText s = .error e ∧ e.message = "unknown log level: '" ++ s ++ "'") ∧
    ∀ c : Config, (∀ l, ofText c.level = .ok l → c.threshold = l) ∧
      ((∀ l, ofText c.level ≠ .ok l) → c.threshold = .info) := by
  refine ⟨⟨rfl, legible_spellings.nodup, fun word l ↦ mem_spellings_iff⟩,
    fun s l ↦ ofText_eq_ok_iff, fun s l ↦ ofText_of_spells, fun s l hl ↦ ?_, fun s key hkey ↦ ?_,
    fun s hs ↦ ⟨⟨s⟩, ofText_eq_error hs, rfl⟩, fun c ↦ ⟨fun l hl ↦ ?_, fun hnone ↦ ?_⟩⟩
  · rw [ofText_eq] at hl
    exact legible_spellings.ascii_of_find hl
  · rw [ofText_eq, legible_spellings.lookup_eq_toOption_find (Unknown.mk s) hkey]
  · simp only [Config.threshold, hl]
  · simp only [Config.threshold, ofText_eq_error hnone]
    rfl

example : ofText "\u00A0CriTical\n" = .ok critical := by decide
example : ofText "\u0130nfo" = .error ⟨"\u0130nfo"⟩ := by decide

end Level
end Logline
