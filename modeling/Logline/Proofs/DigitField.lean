import Logline.Digits.Field
import Logline.Proofs.Digits

/-!
# Numbers find room in their field

A number of 64 bits is written into a field of twenty bytes by a loop that goes on for two reasons:
the number has more than one digit left, or more than one is still asked for.  Three things change
together in it: the place goes down, the number is divided by ten and the width gets smaller.  While
the loop runs, the number stays below ten to the power of the place, and the width does not exceed
the place; so there is always room, and nothing leaves its range.

## What is here

* `Field.Roomy` — the invariant.
* `Field.digits` — the digits that the field is going to hold, which no step changes.
* `Field.put_eq` and `Field.putLast_eq` — one digit; `Field.fill_eq` — the loop; `Field.finish_eq` —
  the first digit.
* `write_eq` — what is written is `number`, behind the buffer.
* `write_spec` — **what a written number is**.
-/

set_option autoImplicit false
namespace Logline
namespace Digits

/-! ## The digits of a number, last one first -/

theorem ones_mod_ten (n : Nat) : ones (n % 10) = ones n := by
  rw [ones, ones, Nat.mod_mod]

theorem fill_of_more {places n width : Nat} (hplaces : 0 < places) (h : 10 ≤ n ∨ 1 < width) :
    fill places n width = fill (places - 1) (n / 10) (width - 1) ++ [ones n] := by
  obtain ⟨k, rfl⟩ := Nat.exists_eq_succ_of_ne_zero (Nat.ne_of_gt hplaces)
  exact if_neg (by omega)

theorem fill_of_not_more {places n width : Nat} (hplaces : 0 < places)
    (h : ¬ (10 ≤ n ∨ 1 < width)) : fill places n width = [ones n] := by
  obtain ⟨k, rfl⟩ := Nat.exists_eq_succ_of_ne_zero (Nat.ne_of_gt hplaces)
  exact if_pos (by omega)

/-- A number of 64 bits has no more than twenty digits. -/
theorem lt_maxPlaces (value : UInt64) : value.toNat < 10 ^ maxPlaces :=
  Nat.lt_trans value.toNat_lt (by decide)

/-! ## Fields -/

namespace Field

/-- The digits that stand in the field. -/
def written (f : Field) : Bytes := f.bytes.toList.drop f.place

/-- The digits that the field is going to hold: those of what is left of its number, and those that
stand there. -/
def digits (f : Field) : Bytes := Digits.fill f.place f.value.toNat f.width ++ f.written

/-- There is a place for every digit that is left of the number or asked for. -/
structure Roomy (f : Field) : Prop where
  place_pos : 0 < f.place
  place_le : f.place ≤ maxPlaces
  value_lt : f.value.toNat < 10 ^ f.place
  width_le : f.width ≤ f.place

theorem hasMore_iff {f : Field} : f.HasMore ↔ 10 ≤ f.value.toNat ∨ 1 < f.width := by
  rw [HasMore, UInt64.le_iff_toNat_le]
  rfl

theorem toNat_div_ten (value : UInt64) : (value / 10).toNat = value.toNat / 10 :=
  UInt64.toNat_div value 10

/-! ## One digit -/

/-- A computation goes on with what its first part has given. -/
theorem bind_of_eq_ok {α β : Type} {x : Except Fault α} {f : α → Except Fault β} {a : α}
    {r : Except Fault β} (hx : x = .ok a) (hf : f a = r) : (x >>= f) = r := by
  rw [hx]
  exact hf

/-- A digit is put in front of those that stand in the field. -/
theorem put_eq {f : Field} (h : f.Roomy) {digit : UInt64} (hdigit : digit.toNat < 10) :
    ∃ bytes, f.put digit = .ok { f with bytes, place := f.place - 1 } ∧
      bytes.toList.drop (f.place - 1) = ones digit.toNat :: f.written := by
  have hpos : 1 ≤ f.place := h.place_pos
  have hplace : f.place - 1 < maxPlaces := Nat.lt_of_lt_of_le (Nat.sub_one_lt_of_lt hpos) h.place_le
  have hbyte : digit.toUInt8.toNat = digit.toNat := by
    rw [UInt64.toNat_toUInt8]
    omega
  have hzero : '0'.toUInt8.toNat = 48 := rfl
  have hsum : '0'.toUInt8 + digit.toUInt8 = ones digit.toNat := by
    rw [← UInt8.toNat_inj, UInt8.toNat_add, hbyte, toNat_ones, hzero]
    omega
  refine ⟨f.bytes.set (f.place - 1) (ones digit.toNat), ?_, ?_⟩
  · refine bind_of_eq_ok (if_pos hpos) ?_
    refine bind_of_eq_ok (if_pos (by omega)) ?_
    rw [hsum]
    exact bind_of_eq_ok (dif_pos hplace) rfl
  · have hlength : f.place - 1 < (f.bytes.toList.set (f.place - 1) (ones digit.toNat)).length := by
      rw [List.length_set, Vector.length_toList]
      exact hplace
    rw [Vector.toList_set, List.drop_eq_getElem_cons hlength, List.getElem_set_self,
      List.drop_set_of_lt (Nat.lt_add_one _), Nat.sub_add_cancel hpos, written]

/-- Neither a number of two digits nor a width of two goes into a single place. -/
theorem Roomy.one_lt_place {f : Field} (h : f.Roomy) (hmore : f.HasMore) : 1 < f.place := by
  obtain ⟨hpos, -, hvalue, hwidth⟩ := h
  obtain h10 | hw := hasMore_iff.mp hmore
  · refine Nat.lt_of_le_of_ne hpos fun hone ↦ ?_
    rw [← hone] at hvalue
    omega
  · exact Nat.lt_of_lt_of_le hw hwidth

/-- The last digit of a number, by the arithmetic of words. -/
theorem toNat_sub_div_mul_ten (value : UInt64) :
    (value / 10 * 10).toNat = value.toNat / 10 * 10 ∧ value / 10 * 10 ≤ value ∧
      (value - value / 10 * 10).toNat = value.toNat % 10 := by
  have hten : (10 : UInt64).toNat = 10 := rfl
  have htens : (value / 10 * 10).toNat = value.toNat / 10 * 10 := by
    have hlt := value.toNat_lt
    rw [UInt64.toNat_mul, toNat_div_ten, hten]
    omega
  have hle : value / 10 * 10 ≤ value := by
    rw [UInt64.le_iff_toNat_le, htens]
    omega
  refine ⟨htens, hle, ?_⟩
  rw [UInt64.toNat_sub_of_le _ _ hle, htens]
  omega

/-- **One step of the loop** keeps the room, and the digits that the field is going to hold. -/
theorem putLast_eq {f : Field} (h : f.Roomy) (hmore : f.HasMore) :
    ∃ bytes, f.putLast = .ok { f with bytes, place := f.place - 1 } ∧
      let g : Field := ⟨bytes, f.place - 1, f.value / 10, f.width - 1⟩
      g.Roomy ∧ g.digits = f.digits := by
  have hplace := h.one_lt_place hmore
  have hten : (10 : UInt64).toNat = 10 := rfl
  obtain ⟨-, hle, hlast⟩ := toNat_sub_div_mul_ten f.value
  have hlt : (f.value - f.value / 10 * 10).toNat < 10 := hlast ▸ Nat.mod_lt _ (by decide)
  obtain ⟨bytes, hput, hwritten⟩ := put_eq h hlt
  refine ⟨bytes, ?_, ⟨?_, ?_, ?_, ?_⟩, ?_⟩
  · refine bind_of_eq_ok (if_pos ?_) ?_
    · rw [toNat_div_ten, hten]
      have := f.value.toNat_lt
      omega
    · exact bind_of_eq_ok (if_pos hle) hput
  · exact Nat.sub_pos_of_lt hplace
  · exact Nat.le_trans (Nat.sub_le _ _) h.place_le
  · show (f.value / 10).toNat < 10 ^ (f.place - 1)
    have hvalue := h.value_lt
    rw [← Nat.sub_add_cancel (Nat.le_of_lt hplace), Nat.pow_succ, Nat.mul_comm] at hvalue
    rw [toNat_div_ten]
    exact Nat.div_lt_of_lt_mul hvalue
  · exact Nat.sub_le_sub_right h.width_le 1
  · show Digits.fill (f.place - 1) (f.value / 10).toNat (f.width - 1) ++
      bytes.toList.drop (f.place - 1) = f.digits
    rw [digits, fill_of_more h.place_pos (hasMore_iff.mp hmore), hwritten, hlast, ones_mod_ten,
      toNat_div_ten, List.append_assoc, List.singleton_append]

/-! ## The loop -/

/-- **The loop comes to an end**, with one digit left to write and room for it. -/
theorem fill_eq {f : Field} (h : f.Roomy) :
    ∃ g, f.fill = .ok g ∧ g.Roomy ∧ ¬ g.HasMore ∧ g.digits = f.digits := by
  induction f using Field.fill.induct with
  | case1 f hmore ih =>
    obtain ⟨bytes, hput, hroomy, hdigits⟩ := putLast_eq h hmore
    obtain ⟨g, hg, hg'⟩ := ih { f with bytes, place := f.place - 1 } hroomy
    refine ⟨g, ?_, ?_⟩
    · rw [Field.fill, dif_pos hmore]
      exact bind_of_eq_ok hput hg
    · rw [← hdigits]
      exact hg'
  | case2 f hmore =>
    refine ⟨f, ?_, h, hmore, rfl⟩
    rw [Field.fill, dif_neg hmore]

/-- The digits of a field with one digit left to write. -/
theorem finish_eq {f : Field} (h : f.Roomy) (hmore : ¬ f.HasMore) : f.finish = .ok f.digits := by
  rw [hasMore_iff] at hmore
  obtain ⟨bytes, hput, hwritten⟩ := put_eq h (show f.value.toNat < 10 by omega)
  refine bind_of_eq_ok hput ?_
  rw [Checked.drop, if_pos (Nat.le_trans (Nat.sub_le _ _) h.place_le), hwritten, digits,
    fill_of_not_more h.place_pos hmore, List.singleton_append]

/-- A number of 64 bits has room in the empty field. -/
theorem roomy_start (value : UInt64) (width : Nat) : (start value width).Roomy where
  place_pos := (by decide : 0 < maxPlaces)
  place_le := Nat.le_refl _
  value_lt := lt_maxPlaces value
  width_le := Nat.min_le_right _ _

theorem digits_start (value : UInt64) (width : Nat) :
    (start value width).digits = number value.toNat width := by
  have hwritten : (start value width).written = [] :=
    List.drop_eq_nil_of_le (Nat.le_of_eq (Vector.length_toList ..))
  rw [digits, hwritten, List.append_nil]
  rfl

end Field

/-! ## Numbers behind a buffer -/

/-- **Writing never leaves its range**, and writes the number. -/
theorem write_eq (buf : Bytes) (value : UInt64) (width : Nat) :
    write buf value width = .ok (appendNumber buf value.toNat width) := by
  obtain ⟨g, hg, hroomy, hmore, hdigits⟩ := Field.fill_eq (Field.roomy_start value width)
  refine Field.bind_of_eq_ok hg ?_
  refine Field.bind_of_eq_ok (Field.finish_eq hroomy hmore) ?_
  rw [hdigits, Field.digits_start, appendNumber]

/-- **What a written number is.**  Whatever the buffer, the number and the width, writing comes to
an end and never leaves its range.  What the buffer holds stays, and behind it stand as many digits
as the number has, or as many as the width asks for if these are more, and then no more than twenty.
They are the decimal digits of the number behind zeros, and read back as the number. -/
theorem write_spec (buf : Bytes) (value : UInt64) (width : Nat) :
    ∃ digits : Bytes, write buf value width = .ok (buf ++ digits) ∧
      appendNumber buf value.toNat width = buf ++ digits ∧
      digits.length = max (Nat.toDigits 10 value.toNat).length (min width 20) ∧
      (∀ b ∈ digits, 48 ≤ b ∧ b ≤ 57) ∧
      digits = (List.replicate (min width 20 - (Nat.toDigits 10 value.toNat).length) '0' ++
        Nat.toDigits 10 value.toNat).map Char.toUInt8 ∧
      value? digits = some value.toNat := by
  have hvalue := lt_maxPlaces value
  exact ⟨number value.toNat width, write_eq buf value width, rfl, length_number_eq width hvalue,
    isDigit_of_mem_number, number_eq width hvalue, value?_number width hvalue⟩

/-- The largest word takes all twenty places. -/
example : write [0xFF] 18446744073709551615 0 =
    .ok (0xFF :: Bytes.ofText "18446744073709551615") := by
  rw [write_eq]
  decide

end Digits
end Logline
