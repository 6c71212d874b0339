import Logline.Proofs.Text
import Logline.Timestamp.Reader
import Mathlib.Algebra.Group.Nat.Defs

/-!
# Writing and reading digits

What the two kinds of decimal field hold, and that it reads back.

## What is here

* `Digits.number_eq` — **a number is its decimal digits behind zeros**; what else there is to say of
  a number follows from that.
* `Digits.value?_number` — a number reads back.
* `Digits.valueFrom?_pair` — so does a pair, below a hundred; `Digits.number_two_eq_pair` says that
  it then is a number of two digits.
* `Digits.fits_pair` and `Digits.fits_number` — their forms.
* `Digits.take?_pair`, `Digits.take?_number` and `Bytes.skip?_cons` — reading a field in front of
  anything else; `bind_of_eq_some` goes on from there to the next one.
-/

set_option autoImplicit false
namespace Logline
namespace Digits

/-! ## Single digits -/

theorem ones_eq (n : Nat) : ones n = (Nat.digitChar (n % 10)).toUInt8 := by
  have h : (Nat.digitChar (n % 10)).toNat = 48 + n % 10 :=
    Nat.toNat_digitChar_of_lt_ten (Nat.mod_lt n (by decide))
  rw [ones, ← h]
  rfl

theorem toNat_ones (n : Nat) : (ones n).toNat = 48 + n % 10 := by
  rw [ones, UInt8.toNat_ofNat']
  omega

theorem toNat_tens {n : Nat} (h : n < 100) : (tens n).toNat = 48 + n / 10 := by
  rw [tens, UInt8.toNat_ofNat']
  omega

theorem isDigit_ones (n : Nat) : 48 ≤ ones n ∧ ones n ≤ 57 := by
  have hmod : n % 10 ≤ 9 := Nat.le_of_lt_succ (Nat.mod_lt n (by decide))
  rw [UInt8.le_iff_toNat_le, UInt8.le_iff_toNat_le, toNat_ones]
  exact ⟨Nat.le_add_right 48 _, Nat.add_le_add_left hmod 48⟩

theorem isDigit_tens {n : Nat} (h : n < 100) : 48 ≤ tens n ∧ tens n ≤ 57 := by
  have hdiv : n / 10 ≤ 9 := Nat.le_of_lt_succ (Nat.div_lt_of_lt_mul h)
  rw [UInt8.le_iff_toNat_le, UInt8.le_iff_toNat_le, toNat_tens h]
  exact ⟨Nat.le_add_right 48 _, Nat.add_le_add_left hdiv 48⟩

/-! ## Numbers -/

theorem toNat_lt_of_isDigit {c : Char} (h : c.isDigit = true) : c.toNat < 128 := by
  rw [Char.isDigit, Bool.and_eq_true, decide_eq_true_eq, decide_eq_true_eq] at h
  exact Nat.lt_of_le_of_lt (UInt32.le_iff_toNat_le.mp h.2) (by decide)

/-- The digits of a number that has enough places, behind as many zeros as the width asks for. -/
theorem fill_eq (places n width : Nat) (hn : n < 10 ^ (places + 1)) (hw : width ≤ places + 1) :
    fill (places + 1) n width =
      (List.replicate (width - (Nat.toDigits 10 n).length) '0' ++ Nat.toDigits 10 n).map
        Char.toUInt8 := by
  induction places generalizing n width with
  | zero =>
    rw [Nat.zero_add, Nat.pow_one] at hn
    rw [fill, if_pos ⟨hn, hw⟩, ones_eq, Nat.mod_eq_of_lt hn, Nat.toDigits_of_lt_base hn,
      List.length_singleton, Nat.sub_eq_zero_of_le hw]
    rfl
  | succ places ih =>
    have hrest := ih (n / 10) (width - 1)
      (Nat.div_lt_of_lt_mul (by rw [Nat.pow_succ] at hn; omega)) (by omega)
    rw [fill]
    split
    · next h =>
      rw [ones_eq, Nat.mod_eq_of_lt h.1, Nat.toDigits_of_lt_base h.1, List.length_singleton,
        Nat.sub_eq_zero_of_le h.2]
      rfl
    · next h =>
      rw [hrest, ones_eq]
      by_cases hlt : n < 10
      · -- the number is used up, and what is written in front of it are zeros
        obtain ⟨k, rfl⟩ : ∃ k, width = k + 2 := ⟨width - 2, by omega⟩
        have hzeros : List.replicate (k + 2 - 1 - 1) '0' ++ ['0'] = List.replicate (k + 1) '0' :=
          List.replicate_succ'.symm
        rw [Nat.div_eq_of_lt hlt, Nat.mod_eq_of_lt hlt, Nat.toDigits_zero,
          Nat.toDigits_of_lt_base hlt, List.length_singleton, List.length_singleton, hzeros,
          List.map_append]
        rfl
      · rw [Nat.toDigits_of_base_le (by decide) (Nat.le_of_not_lt hlt), List.length_append,
          List.length_singleton, Nat.sub_sub, Nat.add_comm 1, List.map_append, List.map_append,
          List.map_append, List.append_assoc]
        rfl

/-- **A number is its decimal digits behind zeros.** -/
theorem number_eq {n : Nat} (width : Nat) (h : n < 10 ^ maxPlaces) :
    number n width =
      (List.replicate (min width maxPlaces - (Nat.toDigits 10 n).length) '0' ++
        Nat.toDigits 10 n).map Char.toUInt8 :=
  fill_eq 19 n (min width maxPlaces) h (Nat.min_le_right width maxPlaces)

/-- The digits of an unpadded number are its encoding. -/
theorem number_zero_eq {n : Nat} (h : n < 10 ^ maxPlaces) :
    number n 0 = Bytes.ofChars (Nat.toDigits 10 n) := by
  have hascii : ∀ c ∈ Nat.toDigits 10 n, c.toNat < 128 := fun c hc ↦
    toNat_lt_of_isDigit (Nat.isDigit_of_mem_toDigits (by decide) (by decide) hc)
  rw [number_eq 0 h, Bytes.ofChars_eq_map hascii, Nat.zero_min, Nat.zero_sub]
  rfl

/-! ## Reading back -/

theorem valueFrom?_append (acc : Nat) (a b : Bytes) :
    valueFrom? acc (a ++ b) = (valueFrom? acc a).bind (valueFrom? · b) := by
  induction a generalizing acc with
  | nil => rfl
  | cons x a ih =>
    rw [List.cons_append, valueFrom?, valueFrom?]
    split
    · exact ih _
    · rfl

/-- Decimal digits read as the number that they are the digits of. -/
theorem valueFrom?_map (acc : Nat) {ds : List Char} (h : ∀ c ∈ ds, c.isDigit = true) :
    valueFrom? acc (ds.map Char.toUInt8) = some (Nat.ofDigitChars 10 ds acc) := by
  induction ds generalizing acc with
  | nil => rfl
  | cons c ds ih =>
    rw [List.forall_mem_cons] at h
    have hc := h.1
    rw [Char.isDigit, Bool.and_eq_true, decide_eq_true_eq, decide_eq_true_eq,
      ge_iff_le, UInt32.le_iff_toNat_le, UInt32.le_iff_toNat_le] at hc
    have hbyte : c.toUInt8.toNat = c.toNat := Bytes.toNat_toUInt8 (toNat_lt_of_isDigit h.1)
    have hmem : 48 ≤ c.toUInt8 ∧ c.toUInt8 ≤ 57 := by
      rw [UInt8.le_iff_toNat_le, UInt8.le_iff_toNat_le, hbyte]
      exact hc
    rw [List.map_cons, valueFrom?, if_pos hmem, hbyte, ih _ h.2, Nat.ofDigitChars_cons]
    rfl

/-- **A number reads back**, whatever it is padded to. -/
theorem value?_number {n : Nat} (width : Nat) (h : n < 10 ^ maxPlaces) :
    value? (number n width) = some n := by
  have hdigits : ∀ c ∈ List.replicate (min width maxPlaces - (Nat.toDigits 10 n).length) '0' ++
      Nat.toDigits 10 n, c.isDigit = true := by
    intro c hc
    obtain hc | hc := List.mem_append.mp hc
    · exact (List.eq_of_mem_replicate hc).symm ▸ rfl
    · exact Nat.isDigit_of_mem_toDigits (by decide) (by decide) hc
  have hvalue := valueFrom?_map 0 hdigits
  rw [Nat.ofDigitChars_append, Nat.ofDigitChars_replicate_zero, Nat.mul_zero,
    Nat.ofDigitChars_ten_toDigits, ← number_eq width h] at hvalue
  cases hb : number n width with
  | nil =>
    rw [number_eq width h, List.map_eq_nil_iff, List.append_eq_nil_iff] at hb
    exact absurd hb.2 Nat.toDigits_ne_nil
  | cons x b =>
    rw [hb] at hvalue
    exact hvalue

theorem valueFrom?_pair (acc : Nat) {n : Nat} (h : n < 100) :
    valueFrom? acc (pair n) = some (100 * acc + n) := by
  rw [pair, valueFrom?, if_pos (isDigit_tens h), valueFrom?, if_pos (isDigit_ones n), valueFrom?,
    toNat_tens h, toNat_ones]
  congr 1
  omega

theorem value?_pair {n : Nat} (h : n < 100) : value? (pair n) = some n :=
  (valueFrom?_pair 0 h).trans (congrArg some (by omega))

theorem value?_pair_append {a b : Nat} (ha : a < 100) (hb : b < 100) :
    value? (pair a ++ pair b) = some (100 * a + b) := by
  show valueFrom? 0 (pair a ++ pair b) = _
  rw [valueFrom?_append, valueFrom?_pair 0 ha, Nat.mul_zero, Nat.zero_add]
  exact valueFrom?_pair a hb

/-- Below a hundred, both kinds of field hold the same. -/
theorem number_two_eq_pair {n : Nat} (h : n < 100) : number n 2 = pair n := by
  have hdiv : n / 10 < 10 := Nat.div_lt_of_lt_mul h
  have htens : ones (n / 10) = tens n := by rw [ones, tens, Nat.mod_eq_of_lt hdiv]
  show fill (18 + 1 + 1) n 2 = pair n
  rw [fill, if_neg (by omega), fill, if_pos ⟨hdiv, Nat.le_refl 1⟩, htens]
  rfl

/-! ## Forms -/

theorem fits_pair {n : Nat} (h : n < 100) : Bytes.Fits ['0', '0'] (pair n) :=
  (Bytes.Fits.nil.cons_digit (isDigit_ones n)).cons_digit (isDigit_tens h)

/-- A number takes the digits that it has, or as many as are asked for. -/
theorem length_number_eq {n : Nat} (width : Nat) (h : n < 10 ^ maxPlaces) :
    (number n width).length = max (Nat.toDigits 10 n).length (min width maxPlaces) := by
  rw [number_eq width h, List.length_map, List.length_append, List.length_replicate]
  omega

/-- A number that its width has room for takes just that width. -/
theorem length_number {n width : Nat} (h0 : 0 < width) (hw : width ≤ maxPlaces)
    (hn : n < 10 ^ width) : (number n width).length = width := by
  have hplaces : n < 10 ^ maxPlaces := Nat.lt_of_lt_of_le hn (Nat.pow_le_pow_right (by decide) hw)
  have hlength := (Nat.length_toDigits_le_iff (by decide) h0).mpr hn
  rw [length_number_eq width hplaces, Nat.min_eq_left hw, Nat.max_eq_right hlength]

theorem fits_fill (places n width : Nat) :
    Bytes.Fits (List.replicate (fill places n width).length '0') (fill places n width) := by
  induction places generalizing n width with
  | zero => exact Bytes.Fits.nil
  | succ places ih =>
    have hones : Bytes.Fits ['0'] [ones n] := Bytes.Fits.nil.cons_digit (isDigit_ones n)
    rw [fill]
    split
    · exact hones
    · rw [List.length_append, List.length_singleton, List.replicate_add]
      exact (ih _ _).append hones

/-- Whatever a number is padded to, there is nothing but digits in it. -/
theorem isDigit_of_mem_number {n width : Nat} : ∀ b ∈ number n width, 48 ≤ b ∧ b ≤ 57 :=
  (fits_fill maxPlaces n (min width maxPlaces)).forall_mem (fun _ h0 h9 ↦ ⟨h0, h9⟩)
    fun _ hc ↦ (List.eq_of_mem_replicate hc) ▸ by decide

theorem fits_number {n width : Nat} (h0 : 0 < width) (hw : width ≤ maxPlaces)
    (hn : n < 10 ^ width) : Bytes.Fits (List.replicate width '0') (number n width) := by
  have h := fits_fill maxPlaces n (min width maxPlaces)
  rw [← number, length_number h0 hw hn] at h
  exact h

/-! ## Fields in front of other text -/

theorem take?_append {field : Bytes} {count n : Nat} (hlength : field.length = count)
    (hvalue : value? field = some n) (rest : Bytes) :
    take? count (field ++ rest) = some (n, rest) := by
  rw [take?, List.length_append, hlength, if_pos (Nat.le_add_right _ _), ← hlength,
    List.take_left, List.drop_left, hvalue]
  rfl

theorem take?_pair {n : Nat} (h : n < 100) (rest : Bytes) :
    take? 2 (pair n ++ rest) = some (n, rest) :=
  take?_append (length_pair n) (value?_pair h) rest

theorem take?_pair_append {a b : Nat} (ha : a < 100) (hb : b < 100) (rest : Bytes) :
    take? 4 (pair a ++ pair b ++ rest) = some (100 * a + b, rest) :=
  take?_append rfl (value?_pair_append ha hb) rest

theorem take?_number {n width : Nat} (h0 : 0 < width) (hw : width ≤ maxPlaces)
    (hn : n < 10 ^ width) (rest : Bytes) :
    take? width (number n width ++ rest) = some (n, rest) :=
  take?_append (length_number h0 hw hn)
    (value?_number width (Nat.lt_of_lt_of_le hn (Nat.pow_le_pow_right (by decide) hw))) rest

end Digits

/-- A reader goes on with what its first part has read. -/
theorem bind_of_eq_some {α β : Type} {x : Option α} {f : α → Option β} {a : α} {r : Option β}
    (hx : x = some a) (hf : f a = r) : (x >>= f) = r := by
  rw [hx]
  exact hf

theorem Bytes.skip?_cons (c : UInt8) (rest : Bytes) : Bytes.skip? c (c :: rest) = some rest := by
  rw [skip?, if_pos rfl]

end Logline
