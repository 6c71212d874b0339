import Logline.Digits.Component
import Logline.Proofs.DigitField

/-!
# What two bytes hold of a component

A component is written into two bytes whatever its size, and out of the range of two digits nothing
is refused: the tens go on behind `'9'`, leave the ASCII characters and come around again after 256
of them.  So two bytes hold a component modulo 2560, and not more: the ones as a digit, and as many
tens as a byte can count.  Negative years get here as words just below the end of their range, and
this is what is left of them.

## What is here

* `Stores` — two bytes hold a number modulo 2560; `Stores.eq_iff` says that it is all they hold.
* `stores_pair` and `pair_eq_pair_iff` — **the two bytes of a pair**; `triple_eq_triple_iff` and
  `date_eq_date_iff` carry it over to three and four of them.
* `Stores.eq_number` — below a hundred they are a number of two digits.
* `writeTriple_eq` and `writeDate_eq` — the arithmetic of words and bytes gives the pairs.
* `writePairs_exact` — **what is written of three or four components**.
-/

set_option autoImplicit false
namespace Logline
namespace Digits

/-! ## Two bytes -/

/-- Two bytes hold a number as far as they reach: the second one is the digit for its ones, and the
tens are how far the first one is from `'0'`, around the end of the bytes if need be. -/
structure Stores (x y : UInt8) (n : Nat) : Prop where
  isDigit : 48 ≤ y ∧ y ≤ 57
  value_eq : 10 * (x - '0'.toUInt8).toNat + (y - '0'.toUInt8).toNat = n % 2560

theorem toNat_tens_sub (n : Nat) : (tens n - '0'.toUInt8).toNat = n / 10 % 256 := by
  have hzero : '0'.toUInt8.toNat = 48 := rfl
  rw [tens, UInt8.toNat_sub, UInt8.toNat_ofNat', hzero]
  omega

theorem toNat_ones_sub (n : Nat) : (ones n - '0'.toUInt8).toNat = n % 10 := by
  have hzero : '0'.toUInt8.toNat = 48 := rfl
  rw [UInt8.toNat_sub, toNat_ones, hzero]
  omega

/-- **A pair holds its number.** -/
theorem stores_pair (n : Nat) : Stores (tens n) (ones n) n where
  isDigit := isDigit_ones n
  value_eq := by
    rw [toNat_tens_sub, toNat_ones_sub]
    omega

/-- The digit for the ones is at most nine. -/
theorem Stores.toNat_sub_lt {x y : UInt8} {n : Nat} (h : Stores x y n) :
    (y - '0'.toUInt8).toNat < 10 := by
  have hzero : '0'.toUInt8.toNat = 48 := rfl
  obtain ⟨h0, h9⟩ := h.isDigit
  rw [UInt8.le_iff_toNat_le] at h0 h9
  have hlow : 48 ≤ y.toNat := h0
  have hhigh : y.toNat ≤ 57 := h9
  rw [UInt8.toNat_sub, hzero]
  omega

/-- **Two bytes hold nothing else** of a number than what is left of it modulo 2560. -/
theorem Stores.eq_iff {x y x' y' : UInt8} {m n : Nat} (h : Stores x y m) (h' : Stores x' y' n) :
    x = x' ∧ y = y' ↔ m % 2560 = n % 2560 := by
  have hvalue := h.value_eq
  have hvalue' := h'.value_eq
  constructor
  · rintro ⟨rfl, rfl⟩
    exact hvalue.symm.trans hvalue'
  · intro hmod
    have hlt := h.toNat_sub_lt
    have hlt' := h'.toNat_sub_lt
    have hx : (x - '0'.toUInt8).toNat = (x' - '0'.toUInt8).toNat := by omega
    have hy : (y - '0'.toUInt8).toNat = (y' - '0'.toUInt8).toNat := by omega
    exact ⟨(UInt8.sub_left_inj _).mp (UInt8.toNat_inj.mp hx),
      (UInt8.sub_left_inj _).mp (UInt8.toNat_inj.mp hy)⟩

theorem pair_eq_pair_iff {m n : Nat} : pair m = pair n ↔ m % 2560 = n % 2560 := by
  rw [← (stores_pair m).eq_iff (stores_pair n), pair, pair, List.cons.injEq, List.cons.injEq]
  exact and_congr_right' (and_iff_left rfl)

/-- **Below a hundred, two bytes that hold a number are its two digits**, and so is the number
written with a width of two. -/
theorem Stores.eq_number {x y : UInt8} {n : Nat} (h : Stores x y n) (hn : n < 100) :
    [x, y] = number n 2 ∧
      [x, y] = [Nat.digitChar (n / 10), Nat.digitChar (n % 10)].map Char.toUInt8 := by
  obtain ⟨rfl, rfl⟩ := (h.eq_iff (stores_pair n)).mpr rfl
  have htens : ones (n / 10) = tens n := by
    rw [ones, tens, Nat.mod_eq_of_lt (Nat.div_lt_of_lt_mul hn)]
  refine ⟨(number_two_eq_pair hn).symm, ?_⟩
  rw [← htens, ones_eq, ones_eq, Nat.mod_eq_of_lt (Nat.div_lt_of_lt_mul hn)]
  rfl

/-! ## Three and four pairs -/

theorem triple_eq_triple_iff {a b c a' b' c' : Nat} {sep : UInt8} :
    triple a b c sep = triple a' b' c' sep ↔
      a % 2560 = a' % 2560 ∧ b % 2560 = b' % 2560 ∧ c % 2560 = c' % 2560 := by
  rw [← pair_eq_pair_iff, ← pair_eq_pair_iff, ← pair_eq_pair_iff]
  simp only [triple, pair, List.cons_append, List.nil_append, List.cons.injEq, true_and, and_true,
    and_assoc]

theorem date_eq_date_iff {cc yy mm dd cc' yy' mm' dd' : Nat} {sep : UInt8} :
    date cc yy mm dd sep = date cc' yy' mm' dd' sep ↔
      cc % 2560 = cc' % 2560 ∧ yy % 2560 = yy' % 2560 ∧ mm % 2560 = mm' % 2560 ∧
        dd % 2560 = dd' % 2560 := by
  rw [← pair_eq_pair_iff, ← pair_eq_pair_iff, ← pair_eq_pair_iff, ← pair_eq_pair_iff]
  simp only [date, pair, List.cons_append, List.nil_append, List.cons.injEq, true_and, and_true,
    and_assoc]

/-! ## The arithmetic of a machine -/

namespace Component

theorem tensByte_eq (v : Component) : v.tensByte = tens v.toNat := by
  have hzero : '0'.toUInt8.toNat = 48 := rfl
  have hten : (10 : UInt32).toNat = 10 := rfl
  rw [tensByte, tens, ← UInt8.toNat_inj, UInt8.toNat_add, UInt32.toNat_toUInt8, UInt32.toNat_div,
    UInt8.toNat_ofNat', hzero, hten]
  omega

theorem onesByte_eq (v : Component) : v.onesByte = ones v.toNat := by
  have hzero : '0'.toUInt8.toNat = 48 := rfl
  have hten : (10 : UInt32).toNat = 10 := rfl
  rw [onesByte, ones, ← UInt8.toNat_inj, UInt8.toNat_add, UInt32.toNat_toUInt8, UInt32.toNat_mod,
    UInt8.toNat_ofNat', hzero, hten]
  omega

theorem stores (v : Component) : Stores v.tensByte v.onesByte v.toNat := by
  rw [tensByte_eq, onesByte_eq]
  exact stores_pair v.toNat

end Component

theorem writeTriple_eq (buf : Bytes) (a b c : Component) (sep : UInt8) :
    writeTriple buf a b c sep = appendTriple buf a.toNat b.toNat c.toNat sep := by
  simp only [writeTriple, Component.tensByte_eq, Component.onesByte_eq]
  rfl

theorem writeDate_eq (buf : Bytes) (cc yy mm dd : Component) (sep : UInt8) :
    writeDate buf cc yy mm dd sep =
      appendDate buf cc.toNat yy.toNat mm.toNat dd.toNat sep := by
  simp only [writeDate, Component.tensByte_eq, Component.onesByte_eq]
  rfl

/-- **What is written of three or four components**, for every separator, whatever the words are.
What the buffer holds stays, and behind it stand eight or ten bytes: the separator at its two
places, and two bytes for each component that hold it modulo 2560.  So the bytes behind two buffers
are the same just when the components are congruent, one by one.  A component below a hundred is
there with its two digits, as it is when a number is written with a width of two. -/
theorem writePairs_exact (sep : UInt8) :
    (∀ (buf : Bytes) (a b c : Component), ∃ x₁ y₁ x₂ y₂ x₃ y₃ : UInt8,
      writeTriple buf a b c sep = buf ++ [x₁, y₁, sep, x₂, y₂, sep, x₃, y₃] ∧
      appendTriple buf a.toNat b.toNat c.toNat sep = writeTriple buf a b c sep ∧
      Stores x₁ y₁ a.toNat ∧ Stores x₂ y₂ b.toNat ∧ Stores x₃ y₃ c.toNat) ∧
    (∀ (buf : Bytes) (cc yy mm dd : Component), ∃ x₁ y₁ x₂ y₂ x₃ y₃ x₄ y₄ : UInt8,
      writeDate buf cc yy mm dd sep = buf ++ [x₁, y₁, x₂, y₂, sep, x₃, y₃, sep, x₄, y₄] ∧
      appendDate buf cc.toNat yy.toNat mm.toNat dd.toNat sep = writeDate buf cc yy mm dd sep ∧
      Stores x₁ y₁ cc.toNat ∧ Stores x₂ y₂ yy.toNat ∧ Stores x₃ y₃ mm.toNat ∧
      Stores x₄ y₄ dd.toNat) ∧
    (∀ (buf buf' : Bytes) (a b c a' b' c' : Component),
      (writeTriple buf a b c sep).drop buf.length =
          (writeTriple buf' a' b' c' sep).drop buf'.length ↔
        a.toNat % 2560 = a'.toNat % 2560 ∧ b.toNat % 2560 = b'.toNat % 2560 ∧
          c.toNat % 2560 = c'.toNat % 2560) ∧
    (∀ (buf buf' : Bytes) (cc yy mm dd cc' yy' mm' dd' : Component),
      (writeDate buf cc yy mm dd sep).drop buf.length =
          (writeDate buf' cc' yy' mm' dd' sep).drop buf'.length ↔
        cc.toNat % 2560 = cc'.toNat % 2560 ∧ yy.toNat % 2560 = yy'.toNat % 2560 ∧
          mm.toNat % 2560 = mm'.toNat % 2560 ∧ dd.toNat % 2560 = dd'.toNat % 2560) ∧
    ∀ (x y : UInt8) (v : Component), Stores x y v.toNat → v < 100 →
      [x, y] = [Nat.digitChar (v.toNat / 10), Nat.digitChar (v.toNat % 10)].map Char.toUInt8 ∧
      ∀ buf : Bytes, write buf v.toUInt64 2 = .ok (buf ++ [x, y]) := by
  refine ⟨fun buf a b c ↦ ?_, fun buf cc yy mm dd ↦ ?_, fun buf buf' a b c a' b' c' ↦ ?_,
    fun buf buf' cc yy mm dd cc' yy' mm' dd' ↦ ?_, fun x y v hstores hv ↦ ?_⟩
  · exact ⟨_, _, _, _, _, _, rfl, (writeTriple_eq buf a b c sep).symm, a.stores, b.stores, c.stores⟩
  · exact ⟨_, _, _, _, _, _, _, _, rfl, (writeDate_eq buf cc yy mm dd sep).symm, cc.stores,
      yy.stores, mm.stores, dd.stores⟩
  · rw [writeTriple_eq, writeTriple_eq, appendTriple, appendTriple, List.drop_left, List.drop_left]
    exact triple_eq_triple_iff
  · rw [writeDate_eq, writeDate_eq, appendDate, appendDate, List.drop_left, List.drop_left]
    exact date_eq_date_iff
  · have hlt : v.toNat < 100 := UInt32.lt_iff_toNat_lt.mp hv
    obtain ⟨hnumber, hdigits⟩ := hstores.eq_number hlt
    refine ⟨hdigits, fun buf ↦ ?_⟩
    rw [write_eq, appendNumber, UInt32.toNat_toUInt64, hnumber]

/-- The last year before 0, with the year in its century counted down from the top of the words: its
two bytes are those of 1535, and no digits. -/
theorem writePairs_exact_below_zero :
    let written := fun (buf : Bytes) (year : Component) ↦ writeDate buf 0 year 12 31 '-'.toUInt8
    (written [0xFF] 4294967295).drop 1 = (written [] 1535).drop 0 ∧
      written [0xFF] 4294967295 = [0xFF, 48, 48, 0xC9, 53, 45, 49, 50, 45, 51, 49] ∧
      Stores 0xC9 53 4294967295 ∧
      write [0xFF] (31 : Component).toUInt64 2 = .ok [0xFF, 51, 49] := by
  intro written
  obtain ⟨-, -, -, hdate, hbelow⟩ := writePairs_exact '-'.toUInt8
  have hday : Stores 51 49 (31 : Component).toNat := ⟨by decide, by decide⟩
  exact ⟨(hdate [0xFF] [] 0 4294967295 12 31 0 1535 12 31).mpr (by decide), by decide,
    ⟨by decide, by decide⟩, (hbelow 51 49 31 hday (by decide)).2 [0xFF]⟩

end Digits
end Logline
