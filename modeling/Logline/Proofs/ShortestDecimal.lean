import Logline.Decimal.Shortest
import Logline.Proofs.Rounding
import Mathlib

/-!
# Shortest decimals

Among the decimals that round to a number, the one with the fewest digits is found by trying one
digit, two digits and so on.  With so many digits, decimals that are near enough to the number are
the points of a grid, and of these only the two next to the number have to be looked at: any other
one is farther away, and if it rounds to the number, so does the one next to the number on its side.

## What is here

* `Decimal.Interval.Holds` — the rationals in an interval, and `Decimal.Interval.holds_ofParts`,
  which says that they are **those that round to the number**.
* `Decimal.Interval.integer?_eq_some` and `Decimal.Interval.integer?_eq_none` — **the integer of an
  interval that is nearest to the number**.
* `Decimal.search_eq` — the search, up to the first grid that has a point in the interval.
* `Decimal.Shortest` — **the shortest decimal of a number**, and `Decimal.search_spec`, which says
  that the search finds it.
* `Decimal.shortest_of_zero` and `Decimal.shortest_of_finite` — the same for floating-point numbers
  as they are in a machine.
-/

set_option autoImplicit false
namespace Logline
namespace Decimal

theorem ten_zpow_pos (k : Int) : (0 : ℚ) < 10 ^ k := zpow_pos (by norm_num) k

/-- A power of ten that moves a decimal to the left. -/
theorem natCast_pow_mul_zpow (c : Nat) (k : Int) :
    ((10 ^ c : Nat) : ℚ) * 10 ^ k = 10 ^ (c + k) := by
  rw [zpow_add₀ (by norm_num), zpow_natCast]
  push_cast
  rfl

/-- A power with an exponent of either sign as a fraction. -/
theorem zpow_eq_div {a : ℚ} (ha : a ≠ 0) (k : Int) : a ^ k = a ^ k.toNat / a ^ (-k).toNat := by
  rw [← zpow_natCast, ← zpow_natCast, ← zpow_sub₀ ha]
  congr 1
  omega

/-- To be nearer to `v` than another rational, or as near, and then to be the one that is taken. -/
def Nearer (v w w' : ℚ) (taken : Prop) : Prop := |v - w| < |v - w'| ∨ |v - w| = |v - w'| ∧ taken

theorem Nearer.le {v w w' : ℚ} {taken : Prop} (h : Nearer v w w' taken) : |v - w| ≤ |v - w'| :=
  h.elim le_of_lt fun htie ↦ htie.1.le

/-! ## Intervals -/

namespace Interval

/-- The lower end of an interval. -/
def left (i : Interval) : ℚ := i.low / i.unit

/-- The number that an interval is around. -/
def center (i : Interval) : ℚ := i.mid / i.unit

/-- The upper end of an interval. -/
def right (i : Interval) : ℚ := i.high / i.unit

/-- The rationals in an interval. -/
def Holds (i : Interval) (v : ℚ) : Prop :=
  i.left ≤ v ∧ v ≤ i.right ∧ (i.closed = true ∨ v ≠ i.left ∧ v ≠ i.right)

/-- The number is between the ends. -/
structure Proper (i : Interval) : Prop where
  unit_pos : 0 < i.unit
  low_lt : i.low < i.mid
  lt_high : i.mid < i.high

section Shift

variable (i : Interval) (k : Int)

theorem div_shift (n : Nat) : ((n * Nat.pow 10 k.toNat : Nat) : ℚ) / (i.shift k).unit =
    n / i.unit * 10 ^ k := by
  have hunit : (i.shift k).unit = i.unit * 10 ^ (-k).toNat := rfl
  rw [hunit, zpow_eq_div (by norm_num) k, Nat.pow_eq]
  push_cast
  rw [mul_div_mul_comm]

theorem left_shift : (i.shift k).left = i.left * 10 ^ k := div_shift i k i.low

theorem center_shift : (i.shift k).center = i.center * 10 ^ k := div_shift i k i.mid

theorem right_shift : (i.shift k).right = i.right * 10 ^ k := div_shift i k i.high

variable {i} in
theorem Proper.shift (h : i.Proper) : (i.shift k).Proper where
  unit_pos := Nat.mul_pos h.unit_pos (Nat.pow_pos (by decide))
  low_lt := Nat.mul_lt_mul_of_pos_right h.low_lt (Nat.pow_pos (by decide))
  lt_high := Nat.mul_lt_mul_of_pos_right h.lt_high (Nat.pow_pos (by decide))

/-- A shifted interval holds the shifted rationals. -/
theorem holds_shift (v : ℚ) : (i.shift k).Holds v ↔ i.Holds (v * 10 ^ (-k)) := by
  have hpow := ten_zpow_pos k
  have hclosed : (i.shift k).closed = i.closed := rfl
  have hv : v * 10 ^ (-k) = v / 10 ^ k := by rw [zpow_neg, div_eq_mul_inv]
  rw [Holds, Holds, left_shift, right_shift, hclosed, hv, le_div_iff₀ hpow, div_le_iff₀ hpow,
    Ne, Ne, Ne, Ne, div_eq_iff hpow.ne', div_eq_iff hpow.ne']

end Shift

/-- Division of natural numbers cuts a fraction. -/
theorem div_floor (n : Nat) {unit : Nat} (hunit : 0 < unit) :
    ((n / unit : Nat) : ℚ) ≤ n / unit ∧ (n : ℚ) / unit < (n / unit + 1 : Nat) := by
  have hcast : (0 : ℚ) < unit := Nat.cast_pos.mpr hunit
  rw [le_div_iff₀ hcast, div_lt_iff₀ hcast]
  constructor
  · exact_mod_cast Nat.div_mul_le_self n unit
  · exact_mod_cast Nat.lt_mul_of_div_lt (Nat.lt_succ_self _) hunit

theorem mul_pow_div (i : Interval) (places : Nat) :
    ((i.mid * Nat.pow 10 places : Nat) : ℚ) / i.unit = i.center * 10 ^ places := by
  rw [center, Nat.pow_eq]
  push_cast
  rw [mul_div_right_comm]

section Integer

variable {i : Interval} (h : i.Proper)

include h

theorem Proper.left_lt : i.left < i.center :=
  div_lt_div_of_pos_right (Nat.cast_lt.mpr h.low_lt) (Nat.cast_pos.mpr h.unit_pos)

theorem Proper.lt_right : i.center < i.right :=
  div_lt_div_of_pos_right (Nat.cast_lt.mpr h.lt_high) (Nat.cast_pos.mpr h.unit_pos)

/-- Between the number and a rational of the interval, everything is in the interval. -/
theorem Holds.between {v w : ℚ} (hv : i.Holds v)
    (hw : v ≤ w ∧ w ≤ i.center ∨ i.center ≤ w ∧ w ≤ v) : i.Holds w := by
  have hleft := h.left_lt
  have hright := h.lt_right
  obtain ⟨hlow, hhigh, hends⟩ := hv
  obtain ⟨hvw, hwc⟩ | ⟨hcw, hwv⟩ := hw
  · refine ⟨hlow.trans hvw, (hwc.trans_lt hright).le, hends.imp_right fun hne ↦ ⟨?_, ?_⟩⟩
    · exact ((lt_of_le_of_ne hlow (Ne.symm hne.1)).trans_le hvw).ne'
    · exact (hwc.trans_lt hright).ne
  · refine ⟨(hleft.trans_le hcw).le, hwv.trans hhigh, hends.imp_right fun hne ↦ ⟨?_, ?_⟩⟩
    · exact (hleft.trans_le hcw).ne'
    · exact (hwv.trans_lt (lt_of_le_of_ne hhigh hne.2)).ne

/-- The integer below the number. -/
theorem floor : ((i.mid / i.unit : Nat) : ℚ) ≤ i.center ∧ i.center < (i.mid / i.unit + 1 : Nat) :=
  div_floor i.mid h.unit_pos

/-- Of the integers below the number, the one next to it is in the interval if any of them is. -/
theorem Holds.below {n : Nat} (hn : i.Holds n) (hle : n ≤ i.mid / i.unit) :
    i.Holds (i.mid / i.unit : Nat) :=
  hn.between h (.inl ⟨Nat.cast_le.mpr hle, (floor h).1⟩)

/-- Of the integers above the number, the one next to it is in the interval if any of them is. -/
theorem Holds.above {n : Nat} (hn : i.Holds n) (hlt : i.mid / i.unit < n) :
    i.Holds (i.mid / i.unit + 1 : Nat) :=
  hn.between h (.inr ⟨(floor h).2.le, Nat.cast_le.mpr hlt⟩)

theorem holds_of_le_center {n : Nat} (hn : (n : ℚ) ≤ i.center) :
    i.Holds n ↔
      (if i.closed then decide (i.low ≤ n * i.unit) else decide (i.low < n * i.unit)) = true := by
  have hright := hn.trans_lt h.lt_right
  have hunit : (0 : ℚ) < i.unit := Nat.cast_pos.mpr h.unit_pos
  have hle : i.left ≤ n ↔ i.low ≤ n * i.unit := by
    rw [left, div_le_iff₀ hunit]
    exact_mod_cast Iff.rfl
  have hlt : i.left < n ↔ i.low < n * i.unit := by
    rw [left, div_lt_iff₀ hunit]
    exact_mod_cast Iff.rfl
  rw [Holds]
  cases i.closed with
  | true => simp [hle, hright.le]
  | false => simp [← hlt, hright.le, hright.ne, lt_iff_le_and_ne, ne_comm]

theorem holds_of_center_le {n : Nat} (hn : i.center ≤ n) :
    i.Holds n ↔
      (if i.closed then decide (n * i.unit ≤ i.high) else decide (n * i.unit < i.high)) = true := by
  have hleft := h.left_lt.trans_le hn
  have hunit : (0 : ℚ) < i.unit := Nat.cast_pos.mpr h.unit_pos
  have hle : n ≤ i.right ↔ n * i.unit ≤ i.high := by
    rw [right, le_div_iff₀ hunit]
    exact_mod_cast Iff.rfl
  have hlt : n < i.right ↔ n * i.unit < i.high := by
    rw [right, lt_div_iff₀ hunit]
    exact_mod_cast Iff.rfl
  rw [Holds]
  cases i.closed with
  | true => simp [hle, hleft.le]
  | false => simp [← hlt, hleft.le, hleft.ne', lt_iff_le_and_ne]

/-- Where the number is between the two integers next to it. -/
theorem compare_rest : (2 * (i.mid % i.unit) < i.unit ↔
      i.center < ((i.mid / i.unit : Nat) + (i.mid / i.unit + 1 : Nat)) / 2) ∧
    (2 * (i.mid % i.unit) = i.unit ↔
      i.center = ((i.mid / i.unit : Nat) + (i.mid / i.unit + 1 : Nat)) / 2) := by
  have hunit : (0 : ℚ) < i.unit := Nat.cast_pos.mpr h.unit_pos
  have hmid := Nat.div_add_mod i.mid i.unit
  have hsum : (i.mid / i.unit + (i.mid / i.unit + 1)) * i.unit =
      2 * (i.unit * (i.mid / i.unit)) + i.unit := by ring
  rw [center, div_lt_div_iff₀ hunit two_pos, div_eq_div_iff hunit.ne' two_ne_zero]
  norm_cast
  rw [hsum]
  omega

/-- An integer below the one next to the number is farther away than that. -/
theorem farther_below {n : Nat} (hn : n < i.mid / i.unit) :
    |i.center - (i.mid / i.unit : Nat)| < |i.center - n| := by
  have hfloor := (floor h).1
  have hlt : (n : ℚ) < (i.mid / i.unit : Nat) := Nat.cast_lt.mpr hn
  rw [Binary.farther_iff hlt]
  linarith

/-- An integer above the one next to the number is farther away than that. -/
theorem farther_above {n : Nat} (hn : i.mid / i.unit + 1 < n) :
    |i.center - (i.mid / i.unit + 1 : Nat)| < |i.center - n| := by
  have hfloor := (floor h).2
  have hlt : ((i.mid / i.unit + 1 : Nat) : ℚ) < n := Nat.cast_lt.mpr hn
  rw [Binary.nearer_iff hlt]
  linarith

/-- The four outcomes of the two tests. -/
theorem integer?_cases :
    i.Holds (i.mid / i.unit : Nat) ∧ i.Holds (i.mid / i.unit + 1 : Nat) ∧ i.integer? =
      (if 2 * (i.mid % i.unit) < i.unit ∨ 2 * (i.mid % i.unit) = i.unit ∧ i.mid / i.unit % 2 = 0
        then some (i.mid / i.unit) else some (i.mid / i.unit + 1)) ∨
    i.Holds (i.mid / i.unit : Nat) ∧ ¬ i.Holds (i.mid / i.unit + 1 : Nat) ∧
      i.integer? = some (i.mid / i.unit) ∨
    ¬ i.Holds (i.mid / i.unit : Nat) ∧ i.Holds (i.mid / i.unit + 1 : Nat) ∧
      i.integer? = some (i.mid / i.unit + 1) ∨
    ¬ i.Holds (i.mid / i.unit : Nat) ∧ ¬ i.Holds (i.mid / i.unit + 1 : Nat) ∧
      i.integer? = none := by
  obtain ⟨x, y, hx, hy, heq⟩ : ∃ x y : Bool, (i.Holds (i.mid / i.unit : Nat) ↔ x = true) ∧
      (i.Holds (i.mid / i.unit + 1 : Nat) ↔ y = true) ∧ i.integer? =
        if x && y then
          if 2 * (i.mid % i.unit) < i.unit ∨ 2 * (i.mid % i.unit) = i.unit ∧ i.mid / i.unit % 2 = 0
            then some (i.mid / i.unit) else some (i.mid / i.unit + 1)
        else if x then some (i.mid / i.unit) else if y then some (i.mid / i.unit + 1) else none :=
    ⟨_, _, holds_of_le_center h (floor h).1, holds_of_center_le h (floor h).2.le, rfl⟩
  rw [hx, hy, heq]
  cases x <;> cases y <;> simp

/-- **Without an integer next to the number** there is none in the interval. -/
theorem integer?_eq_none (hnone : i.integer? = none) (n : Nat) : ¬ i.Holds n := by
  intro hn
  obtain ⟨-, -, heq⟩ | ⟨-, -, heq⟩ | ⟨-, -, heq⟩ | ⟨hbelow, habove, -⟩ := integer?_cases h
  · rw [heq] at hnone
    split at hnone <;> cases hnone
  · cases heq.symm.trans hnone
  · cases heq.symm.trans hnone
  · obtain hlt | hle := Nat.lt_or_ge (i.mid / i.unit) n
    · exact habove (hn.above h hlt)
    · exact hbelow (hn.below h hle)

/-- The integer below the number is nearer than all others of the interval if it is nearer than the
one above, or as near and even. -/
theorem nearest_below (habove : i.Holds (i.mid / i.unit + 1 : Nat) →
      Nearer i.center (i.mid / i.unit : Nat) (i.mid / i.unit + 1 : Nat) (i.mid / i.unit % 2 = 0))
    {n : Nat} (hn : i.Holds n) (hne : n ≠ i.mid / i.unit) :
    Nearer i.center (i.mid / i.unit : Nat) n (i.mid / i.unit % 2 = 0) := by
  obtain hlt | hgt := Nat.lt_or_gt_of_ne hne
  · exact .inl (farther_below h hlt)
  · have hnear := habove (hn.above h hgt)
    obtain rfl | hgt := Nat.eq_or_lt_of_le hgt
    · exact hnear
    · exact .inl (lt_of_le_of_lt hnear.le (farther_above h hgt))

/-- The integer above the number is nearer than all others of the interval if it is nearer than the
one below, or as near and even. -/
theorem nearest_above (hbelow : i.Holds (i.mid / i.unit : Nat) →
      Nearer i.center (i.mid / i.unit + 1 : Nat) (i.mid / i.unit : Nat)
        ((i.mid / i.unit + 1) % 2 = 0))
    {n : Nat} (hn : i.Holds n) (hne : n ≠ i.mid / i.unit + 1) :
    Nearer i.center (i.mid / i.unit + 1 : Nat) n ((i.mid / i.unit + 1) % 2 = 0) := by
  obtain hlt | hgt := Nat.lt_or_gt_of_ne hne
  · have hnear := hbelow (hn.below h (Nat.le_of_lt_succ hlt))
    obtain rfl | hlt := Nat.eq_or_lt_of_le (Nat.le_of_lt_succ hlt)
    · exact hnear
    · exact .inl (lt_of_le_of_lt hnear.le (farther_below h hlt))
  · exact .inl (farther_above h hgt)

/-- **The integer of an interval that is nearest to the number**, and the even one of two. -/
theorem integer?_eq_some {n : Nat} (hsome : i.integer? = some n) :
    i.Holds n ∧ ∀ n' : Nat, i.Holds n' → n' ≠ n → Nearer i.center n n' (n % 2 = 0) := by
  obtain ⟨hbelow, habove, heq⟩ | ⟨hbelow, habove, heq⟩ | ⟨hbelow, habove, heq⟩ | ⟨-, -, heq⟩ :=
    integer?_cases h
  · have hlt : ((i.mid / i.unit : Nat) : ℚ) < (i.mid / i.unit + 1 : Nat) :=
      Nat.cast_lt.mpr (Nat.lt_succ_self _)
    obtain ⟨hrest, hhalf⟩ := compare_rest h
    rw [← Binary.nearer_iff hlt] at hrest
    rw [← Binary.as_near_iff hlt] at hhalf
    rw [heq] at hsome
    split at hsome
    · next hnear =>
      rw [hrest, hhalf] at hnear
      obtain rfl := Option.some.inj hsome
      exact ⟨hbelow, fun n' ↦ nearest_below h fun _ ↦ hnear⟩
    · next hnear =>
      rw [hrest, hhalf, not_or, not_lt] at hnear
      obtain ⟨hle, hodd⟩ := hnear
      obtain rfl := Option.some.inj hsome
      refine ⟨habove, fun n' ↦ nearest_above h fun _ ↦ ?_⟩
      refine (lt_or_eq_of_le hle).imp_right fun htie ↦ ⟨htie, ?_⟩
      have hne : i.mid / i.unit % 2 ≠ 0 := fun heven ↦ hodd ⟨htie.symm, heven⟩
      omega
  · obtain rfl := Option.some.inj (heq.symm.trans hsome)
    exact ⟨hbelow, fun n' ↦ nearest_below h fun hholds ↦ absurd hholds habove⟩
  · obtain rfl := Option.some.inj (heq.symm.trans hsome)
    exact ⟨habove, fun n' ↦ nearest_above h fun hholds ↦ absurd hholds hbelow⟩
  · cases heq.symm.trans hsome

end Integer

section Parts

variable {m : Nat} {e : Int}

/-- A multiple of a quarter of the last bit. -/
theorem div_ofParts (m : Nat) (e : Int) (n : Nat) :
    ((n * Nat.pow 2 (e - 2).toNat : Nat) : ℚ) / (ofParts m e).unit = n * (2 ^ e / 4) := by
  have hunit : (ofParts m e).unit = 2 ^ (-(e - 2)).toNat := by
    rw [neg_sub]
    rfl
  have hquarter : (2 : ℚ) ^ e / 4 = 2 ^ (e - 2) := by
    rw [zpow_sub₀ two_ne_zero]
    norm_num
  rw [hquarter, hunit, zpow_eq_div two_ne_zero (e - 2), Nat.pow_eq]
  push_cast
  rw [mul_div_assoc]

theorem center_ofParts (m : Nat) (e : Int) : (ofParts m e).center = Binary.value m e := by
  refine (div_ofParts m e (4 * m)).trans ?_
  rw [Binary.value]
  push_cast
  ring

theorem right_ofParts (m : Nat) (e : Int) :
    (ofParts m e).right = Binary.value m e + 2 ^ e / 2 := by
  refine (div_ofParts m e (4 * m + 2)).trans ?_
  rw [Binary.value]
  push_cast
  ring

theorem left_ofParts (h : Binary.Normal m e) :
    (ofParts m e).left = Binary.value m e - 2 ^ Binary.below m e / 2 := by
  have hpos := h.pos
  refine (div_ofParts m e (4 * m - if m = 2 ^ 52 ∧ -1074 < e then 1 else 2)).trans ?_
  rw [Binary.value, Binary.below]
  split
  · have hstep := Binary.two_zpow_succ (e - 1)
    rw [sub_add_cancel] at hstep
    rw [Nat.cast_sub (by omega), hstep]
    push_cast
    ring
  · rw [Nat.cast_sub (by omega)]
    push_cast
    ring

theorem proper_ofParts (h : Binary.Normal m e) : (ofParts m e).Proper := by
  have hpos := h.pos
  have hscale : 0 < Nat.pow 2 (e - 2).toNat := Nat.pow_pos (by decide)
  refine ⟨Nat.pow_pos (by decide), Nat.mul_lt_mul_of_pos_right ?_ hscale,
    Nat.mul_lt_mul_of_pos_right (by omega) hscale⟩
  split <;> omega

/-- **The interval of a number holds what rounds to it.** -/
theorem holds_ofParts (h : Binary.Normal m e) (v : ℚ) :
    (ofParts m e).Holds v ↔ Binary.RoundsTo v m e := by
  have hclosed : (ofParts m e).closed = true ↔ m % 2 = 0 := decide_eq_true_iff
  rw [Binary.roundsTo_iff h, Holds, left_ofParts h, right_ofParts, hclosed]

end Parts

/-- An interval that is longer than one holds an integer. -/
theorem exists_holds {i : Interval} (h : i.Proper) (hlong : 1 < i.right - i.left) :
    ∃ n : Nat, i.Holds n := by
  obtain ⟨hfloor, hceil⟩ := floor h
  have hleft := h.left_lt
  have hright := h.lt_right
  obtain hlt | hge := lt_or_ge i.left (i.mid / i.unit : Nat)
  · have hlt' := hfloor.trans_lt hright
    exact ⟨_, hlt.le, hlt'.le, .inr ⟨hlt.ne', hlt'.ne⟩⟩
  · have hlt : ((i.mid / i.unit + 1 : Nat) : ℚ) < i.right := by
      push_cast
      linarith
    have hlt' := hleft.trans hceil
    exact ⟨_, hlt'.le, hlt.le, .inr ⟨hlt'.ne', hlt.ne⟩⟩

end Interval

/-! ## Digits -/

/-- How many digits a number has. -/
theorem pow_le_of_length {n count : Nat} (hn : 0 < n)
    (hcount : (Nat.toDigits 10 n).length = count + 1) : 10 ^ count ≤ n ∧ n < 10 ^ (count + 1) := by
  refine ⟨?_, (Nat.length_toDigits_le_iff (by decide) (Nat.succ_pos _)).mp hcount.le⟩
  by_contra hlt
  rw [not_le] at hlt
  obtain rfl | hpos := Nat.eq_zero_or_pos count
  · omega
  · have hlength := (Nat.length_toDigits_le_iff (by decide) hpos).mpr hlt
    omega

/-- The place of the first digit, told by the digits of the number with its point moved. -/
theorem digits_bounds {c : ℚ} {n places : Nat} (hn : 0 < n) (hle : n ≤ c * 10 ^ places)
    (hlt : c * 10 ^ places < (n + 1 : Nat)) :
    (10 : ℚ) ^ (((Nat.toDigits 10 n).length : Int) - places - 1) ≤ c ∧
      c < 10 ^ (((Nat.toDigits 10 n).length : Int) - places) := by
  obtain ⟨count, hcount⟩ : ∃ count, (Nat.toDigits 10 n).length = count + 1 :=
    ⟨_, (Nat.succ_pred_eq_of_pos Nat.length_toDigits_pos).symm⟩
  obtain ⟨hlow, hhigh⟩ := pow_le_of_length hn hcount
  have hplaces : (0 : ℚ) < 10 ^ places := by positivity
  have hexponent : ((count + 1 : Nat) : Int) - places - 1 = count - places := by
    push_cast
    ring
  rw [hcount, hexponent, zpow_sub₀ (by norm_num), zpow_sub₀ (by norm_num), zpow_natCast,
    zpow_natCast, zpow_natCast, div_le_iff₀ hplaces, lt_div_iff₀ hplaces]
  constructor
  · exact le_trans (by exact_mod_cast hlow) hle
  · exact lt_of_lt_of_le hlt (by exact_mod_cast hhigh)

/-- The place of the first digit of the number that an interval is around. -/
theorem firstPlace_spec {i : Interval} (h : i.Proper) {places : Nat}
    (hone : 1 ≤ i.center * 10 ^ places) :
    (10 : ℚ) ^ (firstPlace i places - 1) ≤ i.center ∧ i.center < 10 ^ firstPlace i places := by
  obtain ⟨hle, hlt⟩ := Interval.div_floor (i.mid * Nat.pow 10 places) h.unit_pos
  rw [Interval.mul_pow_div] at hle hlt
  have hpos : 0 < i.mid * Nat.pow 10 places / i.unit := by
    have hlt := lt_of_le_of_lt hone hlt
    rw [Nat.one_lt_cast] at hlt
    omega
  exact digits_bounds hpos hle hlt

/-- A number in decimal without the zeros at its end. -/
theorem trimZeros_toDigits {n : Nat} (hn : 0 < n) : ∃ n' zeros : Nat, n = n' * 10 ^ zeros ∧
    n' % 10 ≠ 0 ∧ trimZeros (Nat.toDigits 10 n) = Nat.toDigits 10 n' ∧
      (Nat.toDigits 10 n).length = (Nat.toDigits 10 n').length + zeros := by
  induction n using Nat.strongRecOn with
  | ind n ih =>
    by_cases hzero : n % 10 = 0
    · have hdigits : Nat.toDigits 10 n = Nat.toDigits 10 (n / 10) ++ ['0'] := by
        rw [Nat.toDigits_of_base_le (by decide) (by omega), hzero]
        rfl
      obtain ⟨n', zeros, hn', hlast, htrim, hlength⟩ := ih (n / 10) (by omega) (by omega)
      refine ⟨n', zeros + 1, ?_, hlast, ?_, ?_⟩
      · rw [pow_succ, ← mul_assoc, ← hn']
        omega
      · rw [hdigits, ← htrim, trimZeros, List.reverse_append]
        rfl
      · rw [hdigits, List.length_append, hlength]
        rfl
    · refine ⟨n, 0, by simp, hzero, ?_, rfl⟩
      obtain ⟨front, hdigits⟩ : ∃ front, Nat.toDigits 10 n = front ++ [Nat.digitChar (n % 10)] := by
        obtain hlt | hge := Nat.lt_or_ge n 10
        · refine ⟨[], ?_⟩
          rw [Nat.toDigits_of_lt_base hlt, Nat.mod_eq_of_lt hlt, List.nil_append]
        · exact ⟨_, Nat.toDigits_of_base_le (by decide) hge⟩
      have hdigit : ∀ d < 10, d ≠ 0 → Nat.digitChar d ≠ '0' := by decide
      have hne := hdigit _ (Nat.mod_lt n (by decide)) hzero
      rw [hdigits, trimZeros, List.reverse_append, List.reverse_singleton, List.singleton_append,
        List.dropWhile_cons_of_neg (by simpa using hne), List.reverse_cons, List.reverse_reverse]

/-- A power of ten without the zeros at its end is one. -/
theorem eq_one_of_mul_pow {n zeros count : Nat} (hlast : n % 10 ≠ 0)
    (h : n * 10 ^ zeros = 10 ^ count) : n = 1 := by
  have hpow : 0 < 10 ^ zeros := by positivity
  obtain hle | hlt := Nat.lt_or_ge count zeros
  · have hgt : 10 ^ count < 10 ^ zeros := Nat.pow_lt_pow_right (by decide) hle
    obtain rfl | hn := Nat.eq_zero_or_pos n
    · exact absurd rfl hlast
    · nlinarith
  · obtain ⟨more, rfl⟩ := Nat.exists_eq_add_of_le hlt
    rw [pow_add, mul_comm] at h
    obtain rfl := Nat.eq_of_mul_eq_mul_left hpow h
    cases more with
    | zero => rfl
    | succ more => exact absurd (by rw [pow_succ, Nat.mul_mod_left]) hlast

/-! ## The search -/

/-- Whether a grid has a point in the interval is looked at in order, and the first one that has one
counts. -/
theorem search_eq {i : Interval} {point : Int} {tries count : Nat}
    (h : ∃ c, count ≤ c ∧ c < count + tries ∧ (i.shift (c - point)).integer? ≠ none) :
    ∃ c n : Nat, count ≤ c ∧ c < count + tries ∧ (i.shift (c - point)).integer? = some n ∧
      (∀ c', count ≤ c' → c' < c → (i.shift (c' - point)).integer? = none) ∧
      search i point tries count =
        (trimZeros (Nat.toDigits 10 n), point + (Nat.toDigits 10 n).length - c) := by
  induction tries generalizing count with
  | zero =>
    obtain ⟨c, hle, hlt, -⟩ := h
    omega
  | succ tries ih =>
    cases hfirst : (i.shift (count - point)).integer? with
    | some n =>
      refine ⟨count, n, Nat.le_refl _, by omega, hfirst, fun c' hle hlt ↦ by omega, ?_⟩
      rw [search, hfirst]
    | none =>
      obtain ⟨c, hle, hlt, hc⟩ := h
      have hne : count ≠ c := by
        rintro rfl
        exact hc hfirst
      have hlater : ∃ c, count + 1 ≤ c ∧ c < count + 1 + tries ∧
          (i.shift (c - point)).integer? ≠ none := ⟨c, by omega, by omega, hc⟩
      obtain ⟨c', n, hle', hlt', hsome, hbefore, heq⟩ := ih hlater
      refine ⟨c', n, by omega, by omega, hsome, fun c'' hle'' hlt'' ↦ ?_, ?_⟩
      · obtain rfl | hlt := Nat.eq_or_lt_of_le hle''
        · exact hfirst
        · exact hbefore c'' hlt hlt''
      · rw [search, hfirst]
        exact heq

/-! ## The shortest decimal -/

/-- **The shortest decimal of a number**: it rounds to the number, nothing with fewer digits does,
and nothing with as many digits that does is nearer.  Of two that are equally near, it is the even
one; the one has lost its zero if it was ten. -/
structure Shortest (m : Nat) (e : Int) (n : Nat) (k : Int) : Prop where
  rounds : Binary.RoundsTo (n * 10 ^ k) m e
  fewest : ∀ (n' : Nat) (k' : Int), Binary.RoundsTo (n' * 10 ^ k') m e →
    (Nat.toDigits 10 n).length ≤ (Nat.toDigits 10 n').length
  nearest : ∀ (n' : Nat) (k' : Int), Binary.RoundsTo (n' * 10 ^ k') m e →
    (Nat.toDigits 10 n').length = (Nat.toDigits 10 n).length → (n' : ℚ) * 10 ^ k' ≠ n * 10 ^ k →
    |Binary.value m e - n * 10 ^ k| < |Binary.value m e - n' * 10 ^ k'| ∨
      |Binary.value m e - n * 10 ^ k| = |Binary.value m e - n' * 10 ^ k'| ∧ (n % 2 = 0 ∨ n = 1)

section Grid

variable {m : Nat} {e : Int} (h : Binary.Normal m e) {point : Int} {c : Nat}

include h

theorem holds_grid_iff (n : Nat) :
    ((Interval.ofParts m e).shift (c - point)).Holds n ↔
      Binary.RoundsTo (n * 10 ^ (point - c)) m e := by
  rw [Interval.holds_shift, Interval.holds_ofParts h, neg_sub]

theorem grid_eq_none (hnone : ((Interval.ofParts m e).shift (c - point)).integer? = none)
    (n : Nat) : ¬ Binary.RoundsTo (n * 10 ^ (point - c)) m e := by
  rw [← holds_grid_iff h]
  exact Interval.integer?_eq_none ((Interval.proper_ofParts h).shift _) hnone n

theorem grid_eq_some {n : Nat}
    (hsome : ((Interval.ofParts m e).shift (c - point)).integer? = some n) :
    Binary.RoundsTo (n * 10 ^ (point - c)) m e ∧
      ∀ n' : Nat, Binary.RoundsTo (n' * 10 ^ (point - c)) m e → n' ≠ n →
        Nearer (Binary.value m e) (n * 10 ^ (point - c)) (n' * 10 ^ (point - c)) (n % 2 = 0) := by
  have hgrid := ten_zpow_pos (point - c)
  have hscale : ∀ n : Nat, |Binary.value m e - n * 10 ^ (point - c)| =
      |Binary.value m e * 10 ^ ((c : Int) - point) - n| * 10 ^ (point - c) := by
    intro n
    have hone : (10 : ℚ) ^ ((c : Int) - point) * 10 ^ (point - c) = 1 := by
      rw [← zpow_add₀ (by norm_num)]
      simp
    rw [← abs_of_pos hgrid, ← abs_mul, abs_of_pos hgrid, sub_mul, mul_assoc, hone, mul_one]
  obtain ⟨hn, hnearest⟩ :=
    Interval.integer?_eq_some ((Interval.proper_ofParts h).shift _) hsome
  rw [holds_grid_iff h] at hn
  refine ⟨hn, fun n' hn' hne ↦ ?_⟩
  have hdistance := hnearest n' ((holds_grid_iff h n').mpr hn') hne
  rw [Interval.center_shift, Interval.center_ofParts, Nearer] at hdistance
  rw [Nearer, hscale, hscale, mul_lt_mul_iff_left₀ hgrid, mul_left_inj' hgrid.ne']
  exact hdistance

/-- The point above the number is not beyond the next power of ten. -/
theorem le_pow_of_grid_eq_some (hpoint : Binary.value m e < 10 ^ point) {n : Nat}
    (hsome : ((Interval.ofParts m e).shift (c - point)).integer? = some n) : n ≤ 10 ^ c := by
  obtain ⟨hn, hnearest⟩ := grid_eq_some h hsome
  by_contra hgt
  rw [not_le] at hgt
  have hvalue : ((10 ^ c : Nat) : ℚ) * 10 ^ (point - c) = 10 ^ point := by
    rw [natCast_pow_mul_zpow, add_sub_cancel]
  have hlt : (10 : ℚ) ^ point < n * 10 ^ (point - c) := by
    rw [← hvalue]
    exact mul_lt_mul_of_pos_right (Nat.cast_lt.mpr hgt) (ten_zpow_pos _)
  have hpower : Binary.RoundsTo ((10 ^ c : Nat) * 10 ^ (point - c)) m e := by
    rw [← Interval.holds_ofParts h] at hn ⊢
    rw [hvalue]
    refine hn.between (Interval.proper_ofParts h) (.inr ⟨?_, hlt.le⟩)
    rw [Interval.center_ofParts]
    exact hpoint.le
  have hnear := hnearest _ hpower hgt.ne
  rw [hvalue] at hnear
  have hnearer := (Binary.nearer_iff hlt (v := Binary.value m e)).mpr (by linarith)
  exact absurd hnearer (not_lt.mpr hnear.le)

/-- A decimal with so many digits that rounds to the number is on the grid, or farther away than a
point of the grid that rounds to the number as well. -/
theorem exists_on_grid (hpoint : (10 : ℚ) ^ (point - 1) ≤ Binary.value m e) {n' : Nat} {k' : Int}
    (hrounds : Binary.RoundsTo (n' * 10 ^ k') m e) (hc : (Nat.toDigits 10 n').length ≤ c) :
    ∃ n : Nat, Binary.RoundsTo (n * 10 ^ (point - c)) m e ∧
      ((n : ℚ) * 10 ^ (point - c) = n' * 10 ^ k' ∨
        |Binary.value m e - n * 10 ^ (point - c)| < |Binary.value m e - n' * 10 ^ k'|) := by
  have hcpos : 0 < c := lt_of_lt_of_le Nat.length_toDigits_pos hc
  have hlt : (n' : ℚ) < 10 ^ (c : Int) := by
    exact_mod_cast (Nat.length_toDigits_le_iff (by decide) hcpos).mp hc
  obtain hge | hbelow := le_or_gt ((10 : ℚ) ^ (point - 1)) (n' * 10 ^ k')
  · -- The last digit is no finer than the grid: the first one is not below that of the number.
    have hexponent : point - c ≤ k' := by
      have hpow : (10 : ℚ) ^ (point - 1) < 10 ^ (c + k') := by
        rw [zpow_add₀ (by norm_num)]
        exact lt_of_le_of_lt hge (mul_lt_mul_of_pos_right hlt (ten_zpow_pos k'))
      have := (zpow_lt_zpow_iff_right₀ (by norm_num)).mp hpow
      omega
    have hvalue : ((n' * 10 ^ (k' - (point - c)).toNat : Nat) : ℚ) * 10 ^ (point - c) =
        n' * 10 ^ k' := by
      have hsplit : ((k' - (point - c)).toNat : Int) + (point - c) = k' := by omega
      rw [Nat.cast_mul, mul_assoc, natCast_pow_mul_zpow, hsplit]
    exact ⟨_, hvalue ▸ hrounds, .inl hvalue⟩
  · have hvalue : ((10 ^ (c - 1) : Nat) : ℚ) * 10 ^ (point - c) = 10 ^ (point - 1) := by
      have hsplit : ((c - 1 : Nat) : Int) + (point - c) = point - 1 := by omega
      rw [natCast_pow_mul_zpow, hsplit]
    refine ⟨10 ^ (c - 1), ?_, .inr ?_⟩
    · rw [← Interval.holds_ofParts h] at hrounds ⊢
      rw [hvalue]
      refine hrounds.between (Interval.proper_ofParts h) (.inl ⟨hbelow.le, ?_⟩)
      rw [Interval.center_ofParts]
      exact hpoint
    · rw [hvalue, Binary.farther_iff hbelow]
      linarith

/-- **Seventeen digits are enough**: the interval is longer than the distance between two points of
their grid. -/
theorem exists_of_seventeen (hpoint : (10 : ℚ) ^ (point - 1) ≤ Binary.value m e) :
    ((Interval.ofParts m e).shift (17 - point)).integer? ≠ none := by
  have hproper := (Interval.proper_ofParts h).shift (17 - point)
  have hgrid := ten_zpow_pos (17 - point)
  have hlast : (10 : ℚ) ^ 16 ≤ m * (2 ^ e * 10 ^ (17 - point)) := by
    have hsixteen : (10 : ℚ) ^ (point - 1) * 10 ^ (17 - point) = 10 ^ 16 := by
      rw [← zpow_add₀ (by norm_num), show point - 1 + (17 - point) = (16 : Nat) by ring,
        zpow_natCast]
    rw [← hsixteen, ← mul_assoc]
    exact mul_le_mul_of_nonneg_right hpoint hgrid.le
  have hlong : 1 < ((Interval.ofParts m e).shift (17 - point)).right -
      ((Interval.ofParts m e).shift (17 - point)).left := by
    have hlt : (m : ℚ) < 2 ^ 53 := by exact_mod_cast h.lt
    have hbit : 0 < (2 : ℚ) ^ e * 10 ^ (17 - point) := mul_pos (Binary.two_zpow_pos e) hgrid
    rw [Interval.right_shift, Interval.left_shift, Interval.right_ofParts, Interval.left_ofParts h,
      Binary.below]
    split
    · next hpower =>
      have hstep := Binary.two_zpow_succ (e - 1)
      rw [sub_add_cancel] at hstep
      rw [hpower.1] at hlast ⊢
      push_cast at hlast
      rw [hstep] at hlast ⊢
      linarith
    · by_contra hshort
      have hle : (2 : ℚ) ^ e * 10 ^ (17 - point) ≤ 1 := by linarith
      have hm : (m : ℚ) * (2 ^ e * 10 ^ (17 - point)) ≤ m * 1 :=
        mul_le_mul_of_nonneg_left hle (Nat.cast_nonneg m)
      linarith
  obtain ⟨n, hn⟩ := Interval.exists_holds hproper hlong
  exact fun hnone ↦ Interval.integer?_eq_none hproper hnone n hn

/-- No number is as small as ten to the power -400. -/
theorem one_le_value_mul : 1 ≤ Binary.value m e * 10 ^ 400 := by
  have hleast : (2 : ℚ) ^ (-1074 : Int) ≤ 2 ^ e := zpow_le_zpow_right₀ (by norm_num) h.least
  have hone : (1 : ℚ) ≤ m := by exact_mod_cast h.pos
  have hpow : (2 : ℚ) ^ 1074 ≤ 10 ^ 400 := calc
    (2 : ℚ) ^ 1074 ≤ 2 ^ (3 * 400) := pow_le_pow_right₀ (by norm_num) (by decide)
    _ = (2 ^ 3) ^ 400 := pow_mul _ _ _
    _ ≤ 10 ^ 400 := pow_le_pow_left₀ (by norm_num) (by norm_num) _
  have hlow : (2 : ℚ) ^ (-1074 : Int) ≤ Binary.value m e :=
    hleast.trans (le_mul_of_one_le_left (Binary.two_zpow_pos e).le hone)
  have hinv : (2 : ℚ) ^ (-1074 : Int) * 2 ^ 1074 = 1 := by
    rw [← zpow_natCast, ← zpow_add₀ two_ne_zero]
    exact zpow_zero 2
  calc (1 : ℚ) = 2 ^ (-1074 : Int) * 2 ^ 1074 := hinv.symm
    _ ≤ Binary.value m e * 10 ^ 400 :=
      mul_le_mul hlow hpow (pow_nonneg (by norm_num) _) (Binary.value_pos h).le

theorem magnitude_spec : (10 : ℚ) ^ (magnitude (Interval.ofParts m e) - 1) ≤ Binary.value m e ∧
    Binary.value m e < 10 ^ magnitude (Interval.ofParts m e) := by
  have hone := one_le_value_mul h
  rw [← Interval.center_ofParts] at hone ⊢
  exact firstPlace_spec (Interval.proper_ofParts h) hone

/-- The grid on which the search ends is no finer than any decimal that rounds to the number: with
fewer digits, the search would have ended before. -/
theorem le_length_of_grids_eq_none (hpoint : (10 : ℚ) ^ (point - 1) ≤ Binary.value m e)
    (hbefore : ∀ c' : Nat, 1 ≤ c' → c' < c →
      ((Interval.ofParts m e).shift (c' - point)).integer? = none)
    {n' : Nat} {k' : Int} (hn' : Binary.RoundsTo (n' * 10 ^ k') m e) :
    c ≤ (Nat.toDigits 10 n').length := by
  by_contra hlt
  rw [not_le] at hlt
  obtain ⟨n'', hn'', -⟩ := exists_on_grid h hpoint hn' (Nat.le_refl _)
  exact grid_eq_none h (hbefore _ Nat.length_toDigits_pos hlt) n'' hn''

/-- The point of a grid is nearer to the number than any decimal with so many digits that rounds to
it. -/
theorem nearer_of_grid_eq_some (hpoint : (10 : ℚ) ^ (point - 1) ≤ Binary.value m e) {n : Nat}
    (hsome : ((Interval.ofParts m e).shift (c - point)).integer? = some n) {n' : Nat} {k' : Int}
    (hn' : Binary.RoundsTo (n' * 10 ^ k') m e) (hc : (Nat.toDigits 10 n').length ≤ c)
    (hne : (n' : ℚ) * 10 ^ k' ≠ n * 10 ^ (point - c)) :
    Nearer (Binary.value m e) (n * 10 ^ (point - c)) (n' * 10 ^ k') (n % 2 = 0) := by
  obtain ⟨other, hother, hplace⟩ := exists_on_grid h hpoint hn' hc
  by_cases hsame : other = n
  · subst hsame
    exact .inl (hplace.resolve_left hne.symm)
  · have hnear := (grid_eq_some h hsome).2 other hother hsame
    obtain heq | hlt := hplace
    · rwa [← heq]
    · exact .inl (lt_of_le_of_lt hnear.le hlt)

/-- **The search finds the shortest decimal.** -/
theorem search_spec : ∃ (n : Nat) (k : Int), n % 10 ≠ 0 ∧ Shortest m e n k ∧
    search (Interval.ofParts m e) (magnitude (Interval.ofParts m e)) maxDigits 1 =
      (Nat.toDigits 10 n, k + (Nat.toDigits 10 n).length) := by
  obtain ⟨hlow, hhigh⟩ := magnitude_spec h
  generalize magnitude (Interval.ofParts m e) = point at hlow hhigh
  have hfound : ∃ c, 1 ≤ c ∧ c < 1 + maxDigits ∧
      ((Interval.ofParts m e).shift (c - point)).integer? ≠ none :=
    ⟨17, by decide, by decide, exists_of_seventeen h hlow⟩
  obtain ⟨c, top, hc, -, hsome, hbefore, hsearch⟩ := search_eq hfound
  have hrounds := (grid_eq_some h hsome).1
  have htop : 0 < top := by
    refine Nat.pos_of_ne_zero fun hzero ↦ hrounds.ne_zero h ?_
    rw [hzero, Nat.cast_zero, zero_mul]
  obtain ⟨n, zeros, htrim, hlast, hdigits, hlength⟩ := trimZeros_toDigits htop
  have hvalue : (n : ℚ) * 10 ^ (point - c + zeros) = top * 10 ^ (point - c) := by
    rw [htrim, Nat.cast_mul, mul_assoc, natCast_pow_mul_zpow, add_comm (zeros : Int)]
  have hfewest {n' : Nat} {k' : Int} (hn' : Binary.RoundsTo (n' * 10 ^ k') m e) :
      c ≤ (Nat.toDigits 10 n').length := le_length_of_grids_eq_none h hlow hbefore hn'
  have hn := hfewest (hvalue ▸ hrounds)
  -- The point above the number may be a power of ten; no other one ends in a zero.
  have hcount : (Nat.toDigits 10 n).length = c ∧ (zeros = 0 ∨ n = 1) := by
    obtain hlt | heq := Nat.lt_or_eq_of_le (le_pow_of_grid_eq_some h hhigh hsome)
    · have hshort := (Nat.length_toDigits_le_iff (by decide) hc).mpr hlt
      exact ⟨by omega, .inl (by omega)⟩
    · obtain rfl := eq_one_of_mul_pow hlast (htrim.symm.trans heq)
      exact ⟨le_antisymm hc hn, .inr rfl⟩
  refine ⟨n, point - c + zeros, hlast, ⟨hvalue ▸ hrounds, fun n' k' hn' ↦ ?_, ?_⟩, ?_⟩
  · exact hcount.1 ▸ hfewest hn'
  · intro n' k' hn' hlength' hne
    rw [hvalue] at hne ⊢
    have heven : top % 2 = 0 → n % 2 = 0 ∨ n = 1 := by
      intro heven
      refine hcount.2.imp_left fun hzeros ↦ ?_
      rwa [htrim, hzeros, pow_zero, mul_one] at heven
    have hnear := nearer_of_grid_eq_some h hlow hsome hn' (hlength'.trans hcount.1).le hne
    exact hnear.imp_right (.imp_right heven)
  · rw [maxDigits] at hsearch ⊢
    rw [hsearch, hdigits, hlength]
    congr 1
    push_cast
    ring

end Grid

/-! ## Floating-point numbers -/

open Float.Model UnpackedFloat

section Fields

variable {b : BitVec 64}

theorem toNat_unpackMantissa :
    (@unpackMantissa .binary64 b).toNat = b.toNat % 4503599627370496 := by
  simp [unpackMantissa]

theorem toNat_unpackExponent :
    (@unpackExponent .binary64 b).toNat = b.toNat / 4503599627370496 % 2048 := by
  simp [unpackExponent, Nat.shiftRight_eq_div_pow]

theorem unpackSign_iff :
    Sign.ofBitVec (@unpackSign .binary64 b) = .negative ↔ 9223372036854775808 ≤ b.toNat := by
  have hbit : (@unpackSign .binary64 b).toNat = b.toNat / 9223372036854775808 % 2 := by
    simp [unpackSign, Nat.shiftRight_eq_div_pow]
  have hlt := b.isLt
  have hzero : @unpackSign .binary64 b = 0#1 ↔ (@unpackSign .binary64 b).toNat = 0 := by
    rw [← BitVec.toNat_inj]
    rfl
  rw [hbit] at hzero
  rw [Sign.ofBitVec]
  split
  · next hsign =>
    have hvalue := hzero.mp hsign
    exact iff_of_false nofun (by omega)
  · next hsign =>
    have hvalue := mt hzero.mpr hsign
    exact iff_of_true rfl (by omega)

theorem unpackExponent_eq_zero_iff :
    @unpackExponent .binary64 b = 0#11 ↔ b.toNat / 4503599627370496 % 2048 = 0 := by
  rw [← BitVec.toNat_inj, toNat_unpackExponent]
  rfl

theorem unpackMantissa_eq_zero_iff :
    @unpackMantissa .binary64 b = 0#52 ↔ b.toNat % 4503599627370496 = 0 := by
  rw [← BitVec.toNat_inj, toNat_unpackMantissa]
  rfl

/-- The bits of a zero. -/
theorem unpack_eq_zero {s : Sign} (h : UnpackedFloat.unpack .binary64 b = .zero s) :
    (s = .negative ↔ 9223372036854775808 ≤ b.toNat) ∧ b.toNat / 4503599627370496 % 2048 = 0 ∧
      b.toNat % 4503599627370496 = 0 := by
  simp only [UnpackedFloat.unpack] at h
  split at h
  · split at h <;> cases h
  · split at h
    · next hfield =>
      split at h
      · next hfraction =>
        obtain rfl := UnpackedFloat.zero.inj h
        exact ⟨unpackSign_iff, unpackExponent_eq_zero_iff.mp hfield,
          unpackMantissa_eq_zero_iff.mp hfraction⟩
      · cases h
    · cases h

/-- The bits of any other finite number. -/
theorem unpack_eq_finite {s : Sign} {m : Nat} {e : Int} {hm : 0 < m}
    (h : UnpackedFloat.unpack .binary64 b = .finite s m e hm) :
    (s = .negative ↔ 9223372036854775808 ≤ b.toNat) ∧
      (b.toNat / 4503599627370496 % 2048 = 0 ∧ m = b.toNat % 4503599627370496 ∧ e = -1074 ∨
        b.toNat / 4503599627370496 % 2048 ≠ 0 ∧ m = 4503599627370496 + b.toNat % 4503599627370496 ∧
          e = (b.toNat / 4503599627370496 % 2048 : Nat) - 1075) := by
  simp only [UnpackedFloat.unpack] at h
  split at h
  · split at h <;> cases h
  · split at h
    · next hfield =>
      split at h
      · cases h
      · next hfraction =>
        obtain ⟨rfl, hm, he⟩ := UnpackedFloat.finite.inj h
        rw [toNat_unpackMantissa] at hm
        rw [hfield] at he
        have hleast := unpackExponent_eq_zero_iff.mp hfield
        exact ⟨unpackSign_iff, .inl ⟨hleast, hm.symm, he.symm.trans (by decide)⟩⟩
    · next hfield =>
      obtain ⟨rfl, hm, he⟩ := UnpackedFloat.finite.inj h
      rw [toNat_unpackExponent] at he
      refine ⟨unpackSign_iff, .inr ⟨mt unpackExponent_eq_zero_iff.mpr hfield, ?_, ?_⟩⟩
      · have hlt : b.toNat % 4503599627370496 < 2 ^ 52 := Nat.mod_lt _ (by decide)
        rw [← hm, BitVec.toNat_append, toNat_unpackMantissa]
        exact (Nat.shiftLeft_add_eq_or_of_lt hlt 1).symm
      · exact he.symm
end Fields

/-- A zero has the digit zero in front of its point. -/
theorem shortest_of_zero {x : Float} {s : Sign} (h : x.toModel.unpack = .zero s) :
    ((shortest x).negative = true ↔ s = .negative) ∧ (shortest x).digits = ['0'] ∧
      (shortest x).point = 1 := by
  obtain ⟨hsign, hfield, hfraction⟩ := unpack_eq_zero h
  have hshortest : shortest x =
      ⟨decide (9223372036854775808 ≤ x.toBits.toNat), ['0'], 1⟩ := if_pos ⟨hfield, hfraction⟩
  rw [hshortest]
  exact ⟨decide_eq_true_iff.trans hsign.symm, rfl, rfl⟩

/-- **The shortest decimal of a floating-point number** other than zero. -/
theorem shortest_of_finite {x : Float} {s : Sign} {m : Nat} {e : Int} {hm : 0 < m}
    (h : x.toModel.unpack = .finite s m e hm) :
    ((shortest x).negative = true ↔ s = .negative) ∧
      ∃ (n : Nat) (k : Int), n % 10 ≠ 0 ∧ Shortest m e n k ∧
        (shortest x).digits = Nat.toDigits 10 n ∧
        (shortest x).point = k + (Nat.toDigits 10 n).length := by
  obtain ⟨hsign, hparts⟩ := unpack_eq_finite h
  have hbits : x.toModel.toBits.toBitVec.toNat = x.toBits.toNat := rfl
  rw [hbits] at hparts hsign
  have hnormal : Binary.Normal m e := by
    refine ⟨hm, ?_, ?_, ?_⟩ <;> omega
  obtain ⟨n, k, hlast, hspec, hsearch⟩ := search_spec hnormal
  have hzero : ¬ (x.toBits.toNat / 4503599627370496 % 2048 = 0 ∧
      x.toBits.toNat % 4503599627370496 = 0) := by omega
  have hshortest : shortest x = ⟨decide (9223372036854775808 ≤ x.toBits.toNat),
      (search (Interval.ofParts m e) (magnitude (Interval.ofParts m e)) maxDigits 1).1,
      (search (Interval.ofParts m e) (magnitude (Interval.ofParts m e)) maxDigits 1).2⟩ := by
    simp only [shortest, if_neg hzero]
    obtain ⟨hfield, rfl, rfl⟩ | ⟨hfield, rfl, rfl⟩ := hparts
    · simp only [if_pos hfield]
    · simp only [if_neg hfield]
  rw [hshortest, hsearch]
  exact ⟨decide_eq_true_iff.trans hsign.symm, n, k, hlast, hspec, rfl, rfl⟩

end Decimal
end Logline
