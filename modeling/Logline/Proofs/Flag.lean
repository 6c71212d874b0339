import Logline.Proofs.CompactJson
import Logline.Proofs.Lowercase
import Logline.Setting

/-!
# Values that say yes or no

A flag is given as a document.  Truth values stand for themselves and numbers for not being zero, so
that none of them is refused.  A string has to write one of twelve words; everything else is
refused, and the complaint shows it: a string as it was given, any other document in its compact
form, which `Json.CompactText` describes for every document.

## What is here

* `Json.Number.isZero_float_iff` — a floating-point number has two zeros, told apart by the sign.
* `Setting.flag_string` — a string is looked up among the words; `Setting.flag_string_eq_ok_iff`
  says **which strings say yes or no**.
* `Setting.flag_exact` — **what a document says**.
-/

set_option autoImplicit false
namespace Logline

/-! ## Numbers -/

namespace Json

open Float.Model UnpackedFloat

theorem toBits_zero : (0 : Float).toModel.toBits = 0 := by decide +kernel

/-- The floating-point numbers that are zero: one of either sign. -/
theorem Number.isZero_float_iff {x : Float} :
    (Number.float x).isZero = true ↔ x.toBits = 0 ∨ x.toBits = 0x8000000000000000 := by
  have hbits : ∀ n : UInt64, x.toModel.toBits.toBitVec = n.toBitVec ↔ x.toBits = n := fun n ↦
    UInt64.toBitVec_inj
  have hpos : packedZero .binary64 .positive = (0 : UInt64).toBitVec := by decide
  have hneg : packedZero .binary64 .negative = (0x8000000000000000 : UInt64).toBitVec := by decide
  have hnan : packedNaN .binary64 = (0x7FF8000000000000 : UInt64).toBitVec := by decide
  have hbeq := unpack_beq_unpack_iff x.toModel.valid (0 : Float).toModel.valid
  rw [toBits_zero, hpos, hneg, hnan] at hbeq
  refine hbeq.trans ⟨?_, fun h ↦ ⟨(hbits _).not.mpr ?_, by decide, ?_⟩⟩
  · rintro ⟨-, -, hx | ⟨hx, -⟩ | ⟨hx, -⟩⟩
    · exact .inl ((hbits _).mp hx)
    · exact .inl ((hbits _).mp hx)
    · exact .inr ((hbits _).mp hx)
  · intro hx
    rw [hx] at h
    revert h
    decide
  · rcases h with h | h
    · exact .inl ((hbits _).mpr h)
    · exact .inr (.inr ⟨(hbits _).mpr h, rfl⟩)

end Json

namespace Setting

theorem flag_integer (n : Int) : flag (.number (.integer n)) = .ok (decide (n ≠ 0)) := by
  rw [decide_not]
  rfl

theorem flag_float (x : Float) : flag (.number (.float x)) =
    .ok (decide (x.toBits ≠ 0 ∧ x.toBits ≠ 0x8000000000000000)) := by
  have hflag : (!(Json.Number.float x).isZero) =
      decide (x.toBits ≠ 0 ∧ x.toBits ≠ 0x8000000000000000) := by
    rw [Bool.eq_iff_iff, decide_eq_true_eq, Bool.not_eq_true', ← Bool.not_eq_true,
      Json.Number.isZero_float_iff, not_or]
  exact congrArg Except.ok hflag

/-! ## Strings -/

theorem legible_words : Text.Legible words := ⟨by decide, by decide⟩

/-- A string is looked up among the words. -/
theorem flag_string (s : String) : flag (.string s) = Text.find words (.notBool s) s := by
  rw [flag, Text.find]
  cases words.lookup (Text.lower (Text.trim s)) <;> rfl

/-- **Which strings say yes or no**: those that write one of the words, up to blanks at the ends and
ASCII case. -/
theorem flag_string_eq_ok_iff {s : String} {b : Bool} :
    flag (.string s) = .ok b ↔ ∃ word, (word, b) ∈ words ∧ Text.Spells word s := by
  rw [flag_string, legible_words.find_eq_ok_iff]

theorem mem_words_iff {word : String} {b : Bool} : (word, b) ∈ words ↔
    word ∈ if b then ["1", "t", "true", "y", "yes", "on"]
      else ["0", "f", "false", "n", "no", "off"] := by
  cases b <;> simp [words]

/-! ## Documents -/

/-- **What a document says.**  A truth value says what it is.  Every number says something: no if it
is zero, in either of two ways if it is a floating-point number, and yes otherwise.  A string says
yes or no exactly if it writes one of six words for each, up to blanks at the ends and ASCII case.
So one that is not ASCII when it is trimmed says nothing, whichever small sigma a capital one
becomes, and two strings that differ in blanks at the ends and ASCII case only say the same.  A
string that says nothing is refused as it was given.  All other documents are refused in their
compact form, which reads back if it has no floating-point numbers and is not too deep. -/
theorem flag_exact :
    (∀ b, flag (.bool b) = .ok b) ∧
    (∀ n, flag (.number (.integer n)) = .ok (decide (n ≠ 0))) ∧
    (∀ x, flag (.number (.float x)) =
      .ok (decide (x.toBits ≠ 0 ∧ x.toBits ≠ 0x8000000000000000))) ∧
    (∀ s, flag (.string s) = .ok true ↔
      ∃ word ∈ ["1", "t", "true", "y", "yes", "on"], Text.Spells word s) ∧
    (∀ s, flag (.string s) = .ok false ↔
      ∃ word ∈ ["0", "f", "false", "n", "no", "off"], Text.Spells word s) ∧
    (∀ s b, flag (.string s) = .ok b → ∀ c ∈ (Text.trim s).toList, c.toNat < 128) ∧
    (∀ s key, Text.LowersTo (Text.trim s).toList key.toList →
      words.lookup key = (flag (.string s)).toOption) ∧
    (∀ s s', Text.Spells s s' → (flag (.string s')).toOption = (flag (.string s)).toOption) ∧
    (∀ s, (∀ b, flag (.string s) ≠ .ok b) → flag (.string s) = .error (.notBool s)) ∧
    ∀ v, (v = .null ∨ (∃ items, v = .array items) ∨ ∃ members, v = .object members) →
      flag v = .error (.notBool v.compact) ∧ Json.CompactText v v.compact.toList ∧
        (Json.Exact Json.maxDepth v → Json.read? v.compact = some v) := by
  have hwords : ∀ s b, flag (.string s) = .ok b ↔ ∃ word ∈
      if b then ["1", "t", "true", "y", "yes", "on"] else ["0", "f", "false", "n", "no", "off"],
      Text.Spells word s := by
    intro s b
    simp only [flag_string_eq_ok_iff, mem_words_iff]
  refine ⟨fun b ↦ rfl, flag_integer, flag_float, fun s ↦ hwords s true, fun s ↦ hwords s false,
    fun s b hb ↦ ?_, fun s key hkey ↦ ?_, fun s s' hspells ↦ ?_, fun s hnone ↦ ?_,
    fun v hv ↦ ⟨?_, Json.compactText_compact v, Json.read?_compact⟩⟩
  · rw [flag_string] at hb
    exact legible_words.ascii_of_find hb
  · rw [flag_string, legible_words.lookup_eq_toOption_find (Error.notBool s) hkey]
  · rw [flag_string, flag_string, legible_words.toOption_find_congr _ _ hspells]
  · rw [flag_string] at hnone ⊢
    exact Text.find_eq_error hnone
  · rcases hv with rfl | ⟨items, rfl⟩ | ⟨members, rfl⟩ <;> rfl

example : flag (.string "\u3000YeS\t") = .ok true := by decide
example : flag (.string " ye\u017f") = .error (.notBool " ye\u017f") := by decide
example : flag (.array [.bool true]) = .error (.notBool "[true]") := by decide

end Setting
end Logline
