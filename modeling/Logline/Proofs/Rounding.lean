import Mathlib.Algebra.Order.Field.Power
import Mathlib.Data.Rat.Cast.Order
import Mathlib.Tactic.Linarith
import Mathlib.Tactic.Ring

/-!
# Floating-point numbers as rationals

A floating-point number other than zero is a mantissa of at most 53 bits times a power of two.  A
rational rounds to the nearest such number, and to the one with the even mantissa if there are two.
So the rationals that round to a number make an interval around it: half-way to the number above it,
and half-way to the one below it, which is half as far away if the number is a power of two.

## What is here

* `Binary.value` — what a mantissa and an exponent stand for; `Binary.Normal` — the numbers that a
  floating-point format of 64 bits holds, each in one way.
* `Binary.RoundsTo` — **to round to a number**: no other one is nearer.
* `Binary.le_of_lt` and `Binary.le_of_gt` — **there is nothing between neighbours**.
* `Binary.roundsTo_iff` — **what rounds to a number is an interval**.
-/

set_option autoImplicit false
namespace Logline
namespace Binary

/-- What a mantissa and an exponent stand for. -/
def value (m : Nat) (e : Int) : ℚ := m * 2 ^ e

/-- A number other than zero, with all its bits in the mantissa unless the exponent is the least. -/
structure Normal (m : Nat) (e : Int) : Prop where
  pos : 0 < m
  lt : m < 2 ^ 53
  least : -1074 ≤ e
  full : 2 ^ 52 ≤ m ∨ e = -1074

/-- **To round to a number**: every other one is farther away, or as far away when the mantissa of
the number is even. -/
def RoundsTo (v : ℚ) (m : Nat) (e : Int) : Prop :=
  ∀ (m' : Nat) (e' : Int), m' < 2 ^ 53 → -1074 ≤ e' → value m' e' ≠ value m e →
    |v - value m e| < |v - value m' e'| ∨ |v - value m e| = |v - value m' e'| ∧ m % 2 = 0

/-- The exponent of the distance to the number below. -/
def below (m : Nat) (e : Int) : Int := if m = 2 ^ 52 ∧ -1074 < e then e - 1 else e

/-! ## Neighbours -/

theorem two_zpow_pos (e : Int) : (0 : ℚ) < 2 ^ e := zpow_pos (by norm_num) e

theorem two_zpow_succ (e : Int) : (2 : ℚ) ^ (e + 1) = 2 * 2 ^ e := by
  rw [zpow_add_one₀ (by norm_num), mul_comm]

/-- With a larger exponent, a number is one of the same exponent with a larger mantissa. -/
theorem exists_eq_value {e e' : Int} (h : e ≤ e') (m' : Nat) :
    ∃ n : Nat, value m' e' = value n e := by
  refine ⟨m' * 2 ^ (e' - e).toNat, ?_⟩
  have hsplit : e' = ((e' - e).toNat : Int) + e := by omega
  conv_lhs => rw [value, hsplit, zpow_add₀ (by norm_num), zpow_natCast]
  rw [value]
  push_cast
  ring

theorem below_le (m : Nat) (e : Int) : (2 : ℚ) ^ below m e ≤ 2 ^ e := by
  refine zpow_le_zpow_right₀ (by norm_num) ?_
  rw [below]
  split <;> omega

section Neighbours

variable {m m' : Nat} {e e' : Int} (h : Normal m e)

include h

theorem value_pos : 0 < value m e := mul_pos (Nat.cast_pos.mpr h.pos) (two_zpow_pos e)

/-- With a smaller exponent, a number is below those that have all bits in the mantissa. -/
theorem value_le_of_lt_exponent (hm' : m' < 2 ^ 53) (hleast : -1074 ≤ e') (hlt : e' < e) :
    2 ^ 52 ≤ m ∧ value m' e' ≤ (2 ^ 53 - 1) * 2 ^ (e - 1) := by
  have hfull : 2 ^ 52 ≤ m := h.full.resolve_right (by omega)
  have hcast : (m' : ℚ) ≤ 2 ^ 53 - 1 := by
    have : (m' : ℚ) + 1 ≤ 2 ^ 53 := by exact_mod_cast hm'
    linarith
  have hpow : (2 : ℚ) ^ e' ≤ 2 ^ (e - 1) := zpow_le_zpow_right₀ (by norm_num) (by omega)
  exact ⟨hfull, mul_le_mul hcast hpow (two_zpow_pos e').le (by norm_num)⟩

/-- **Nothing is between a number and the one above it.** -/
theorem le_of_gt (hm' : m' < 2 ^ 53) (hleast : -1074 ≤ e') (hgt : value m e < value m' e') :
    value m e + 2 ^ e ≤ value m' e' := by
  have hpow := two_zpow_pos e
  obtain hle | hlt := le_or_gt e e'
  · obtain ⟨n, hn⟩ := exists_eq_value hle m'
    rw [hn, value, value] at hgt ⊢
    have hmn : m < n := by exact_mod_cast lt_of_mul_lt_mul_right hgt hpow.le
    have hcast : (m : ℚ) + 1 ≤ n := by exact_mod_cast hmn
    nlinarith
  · obtain ⟨hfull, hbound⟩ := value_le_of_lt_exponent h hm' hleast hlt
    have hstep := two_zpow_succ (e - 1)
    rw [sub_add_cancel] at hstep
    have hcast : (2 : ℚ) ^ 52 ≤ m := by exact_mod_cast hfull
    have hlow : (2 : ℚ) ^ 52 * 2 ^ e ≤ value m e := mul_le_mul_of_nonneg_right hcast hpow.le
    have := two_zpow_pos (e - 1)
    linarith

/-- **Nothing is between a number and the one below it.** -/
theorem le_of_lt (hm' : m' < 2 ^ 53) (hleast : -1074 ≤ e') (hlt : value m' e' < value m e) :
    value m' e' + 2 ^ below m e ≤ value m e := by
  have hpow := two_zpow_pos e
  obtain hle | hgt := le_or_gt e e'
  · have hbelow := below_le m e
    obtain ⟨n, hn⟩ := exists_eq_value hle m'
    rw [hn, value, value] at hlt ⊢
    have hnm : n < m := by exact_mod_cast lt_of_mul_lt_mul_right hlt hpow.le
    have hcast : (n : ℚ) + 1 ≤ m := by exact_mod_cast hnm
    nlinarith
  · obtain ⟨hfull, hbound⟩ := value_le_of_lt_exponent h hm' hleast hgt
    have hstep := two_zpow_succ (e - 1)
    rw [sub_add_cancel] at hstep
    have hvalue : value m e = m * 2 ^ e := rfl
    rw [hvalue, below]
    split
    · next hpower =>
      rw [hpower.1]
      push_cast
      linarith
    · next hpower =>
      have hcast : (2 : ℚ) ^ 52 + 1 ≤ m := by
        have hne : m ≠ 2 ^ 52 := fun hm ↦ hpower ⟨hm, by omega⟩
        exact_mod_cast Nat.lt_of_le_of_ne hfull (Ne.symm hne)
      have := two_zpow_pos (e - 1)
      nlinarith

/-- There is a number above. -/
theorem exists_above : ∃ (m' : Nat) (e' : Int), m' < 2 ^ 53 ∧ -1074 ≤ e' ∧
    value m' e' = value m e + 2 ^ e := by
  have hleast := h.least
  obtain hlt | hge := Nat.lt_or_ge (m + 1) (2 ^ 53)
  · refine ⟨m + 1, e, hlt, hleast, ?_⟩
    rw [value, value]
    push_cast
    ring
  · obtain rfl : m = 2 ^ 53 - 1 := by
      have hlt := h.lt
      omega
    refine ⟨2 ^ 52, e + 1, by norm_num, by omega, ?_⟩
    rw [value, value, two_zpow_succ]
    norm_num
    ring

/-- There is a number below. -/
theorem exists_below : ∃ (m' : Nat) (e' : Int), m' < 2 ^ 53 ∧ -1074 ≤ e' ∧
    value m' e' = value m e - 2 ^ below m e := by
  have hleast := h.least
  have hlt := h.lt
  rw [below]
  split
  · next hpower =>
    have hstep := two_zpow_succ (e - 1)
    rw [sub_add_cancel] at hstep
    refine ⟨2 ^ 53 - 1, e - 1, by norm_num, by omega, ?_⟩
    rw [hpower.1, value, value, hstep]
    norm_num
    ring
  · obtain ⟨n, rfl⟩ : ∃ n, m = n + 1 := ⟨m - 1, by have := h.pos; omega⟩
    refine ⟨n, e, by omega, hleast, ?_⟩
    rw [value, value]
    push_cast
    ring

end Neighbours

/-! ## The interval -/

section Nearer

variable {a b v : ℚ}

theorem nearer_iff (h : a < b) : |v - a| < |v - b| ↔ v < (a + b) / 2 := by
  rcases abs_cases (v - a) with ⟨ha, hva⟩ | ⟨ha, hva⟩ <;>
    rcases abs_cases (v - b) with ⟨hb, hvb⟩ | ⟨hb, hvb⟩ <;> rw [ha, hb] <;>
    constructor <;> intro <;> linarith

theorem farther_iff (h : a < b) : |v - b| < |v - a| ↔ (a + b) / 2 < v := by
  rcases abs_cases (v - a) with ⟨ha, hva⟩ | ⟨ha, hva⟩ <;>
    rcases abs_cases (v - b) with ⟨hb, hvb⟩ | ⟨hb, hvb⟩ <;> rw [ha, hb] <;>
    constructor <;> intro <;> linarith

theorem as_near_iff (h : a < b) : |v - a| = |v - b| ↔ v = (a + b) / 2 := by
  rcases abs_cases (v - a) with ⟨ha, hva⟩ | ⟨ha, hva⟩ <;>
    rcases abs_cases (v - b) with ⟨hb, hvb⟩ | ⟨hb, hvb⟩ <;> rw [ha, hb] <;>
    constructor <;> intro <;> linarith

end Nearer

/-- **What rounds to a number is an interval**, from half-way below it to half-way above it.  The
ends belong to it if the mantissa is even. -/
theorem roundsTo_iff {m : Nat} {e : Int} (h : Normal m e) {v : ℚ} :
    RoundsTo v m e ↔
      value m e - 2 ^ below m e / 2 ≤ v ∧ v ≤ value m e + 2 ^ e / 2 ∧
        (m % 2 = 0 ∨ v ≠ value m e - 2 ^ below m e / 2 ∧ v ≠ value m e + 2 ^ e / 2) := by
  have hup := two_zpow_pos e
  have hdown := two_zpow_pos (below m e)
  constructor
  · intro hv
    obtain ⟨m₁, e₁, hm₁, he₁, habove⟩ := exists_above h
    obtain ⟨m₂, e₂, hm₂, he₂, hbelow⟩ := exists_below h
    have hgt : value m e < value m₁ e₁ := by linarith
    have hlt : value m₂ e₂ < value m e := by linarith
    have h₁ := hv m₁ e₁ hm₁ he₁ hgt.ne'
    have h₂ := hv m₂ e₂ hm₂ he₂ hlt.ne
    rw [nearer_iff hgt, as_near_iff hgt, habove] at h₁
    rw [farther_iff hlt, eq_comm, as_near_iff hlt, hbelow] at h₂
    refine ⟨?_, ?_, ?_⟩
    · obtain h₂ | ⟨h₂, -⟩ := h₂ <;> linarith
    · obtain h₁ | ⟨h₁, -⟩ := h₁ <;> linarith
    · obtain h₁ | ⟨-, heven⟩ := h₁
      · obtain h₂ | ⟨-, heven⟩ := h₂
        · exact .inr ⟨by linarith, by linarith⟩
        · exact .inl heven
      · exact .inl heven
  · rintro ⟨hlow, hhigh, hends⟩ m' e' hm' he' hne
    obtain hlt | hgt := lt_or_gt_of_ne hne
    · have hgap := le_of_lt h hm' he' hlt
      have hle : (value m' e' + value m e) / 2 ≤ v := by linarith
      rw [farther_iff hlt, eq_comm, as_near_iff hlt]
      refine (lt_or_eq_of_le hle).imp_right fun heq ↦ ⟨heq.symm, hends.resolve_right fun hne ↦ ?_⟩
      exact hne.1 (le_antisymm (by linarith) hlow)
    · have hgap := le_of_gt h hm' he' hgt
      have hle : v ≤ (value m e + value m' e') / 2 := by linarith
      rw [nearer_iff hgt, as_near_iff hgt]
      refine (lt_or_eq_of_le hle).imp_right fun heq ↦ ⟨heq, hends.resolve_right fun hne ↦ ?_⟩
      exact hne.2 (le_antisymm hhigh (by linarith))

/-- Zero is a number of its own. -/
theorem RoundsTo.ne_zero {v : ℚ} {m : Nat} {e : Int} (hv : RoundsTo v m e) (h : Normal m e) :
    v ≠ 0 := by
  rintro rfl
  have hpos := value_pos h
  have hzero : value 0 (-1074) = 0 := by rw [value, Nat.cast_zero, zero_mul]
  have hnear := hv 0 (-1074) (by norm_num) le_rfl (by rw [hzero]; exact hpos.ne)
  rw [hzero, sub_self, abs_zero, zero_sub, abs_neg, abs_of_pos hpos] at hnear
  obtain hlt | ⟨heq, -⟩ := hnear <;> linarith

end Binary
end Logline
