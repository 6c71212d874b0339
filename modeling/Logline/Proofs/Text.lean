import Logline.Bytes
import Mathlib.Data.List.Forall2

/-!
# Text in byte strings

The encoding of a text reads back as the text, and on ASCII it is nothing but the codes of its
characters.  A byte string of a fixed layout, such as a date, is described by a *form*: a text in
which a zero stands for any digit.

## What is here

* `Bytes.toText?_ofText` — **encoding and decoding a text**.
* `Bytes.IsText` — the byte strings that can be decoded (`exists_toText?_iff`), with the two rules
  for telling them: a text in front does not matter (`isText_ofChars_append_iff`), and what a
  character outside ASCII leaves behind without its first byte does (`exists_utf8EncodeChar`).
* `Bytes.ofChars_eq_map` and `Bytes.ofChars_map_ofUInt8` — ASCII, in both directions.
* `Bytes.Fits` — a byte string has a form, with its rules for joining two of them;
  `Bytes.Fits.isText` says that it is text then.
-/

set_option autoImplicit false
namespace Logline
namespace Bytes

/-! ## Texts -/

theorem toByteArray_ofChars (cs : List Char) :
    (⟨(ofChars cs).toArray⟩ : ByteArray) = cs.utf8Encode := by
  rw [List.utf8Encode, ofChars]
  exact ByteArray.ext (by simp)

/-- **Encoding loses nothing**: the encoding of a text reads back as the text. -/
theorem toText?_ofText (s : String) : toText? (ofText s) = some s := by
  have h : (⟨(ofText s).toArray⟩ : ByteArray) = s.toByteArray := by
    rw [ofText, toByteArray_ofChars, String.utf8Encode_toList]
  rw [toText?, h, String.fromUTF8?, dif_pos s.isValidUTF8]
  rfl

/-! ## ASCII -/

theorem utf8EncodeChar_ascii {c : Char} (h : c.toNat < 128) :
    String.utf8EncodeChar c = [c.toUInt8] :=
  String.utf8EncodeChar_eq_singleton (Char.utf8Size_eq_one_iff.mpr (by
    rw [UInt32.le_iff_toNat_le]
    exact Nat.le_of_lt_succ h))

theorem toNat_toUInt8 {c : Char} (h : c.toNat < 128) : c.toUInt8.toNat = c.toNat := by
  rw [Char.toUInt8, UInt32.toNat_toUInt8]
  exact Nat.mod_eq_of_lt (Nat.lt_trans h (by decide))

/-- The encoding of ASCII characters is the list of their codes. -/
theorem ofChars_eq_map {cs : List Char} (h : ∀ c ∈ cs, c.toNat < 128) :
    ofChars cs = cs.map Char.toUInt8 := by
  induction cs with
  | nil => rfl
  | cons c cs ih =>
    rw [List.forall_mem_cons] at h
    rw [ofChars, List.flatMap_cons, utf8EncodeChar_ascii h.1, ← ofChars, ih h.2]
    rfl

theorem toUInt8_ofUInt8 (x : UInt8) : (Char.ofUInt8 x).toUInt8 = x :=
  UInt8.toUInt8_toUInt32 x

/-- Bytes below 128 are the encoding of the characters that have them for codes. -/
theorem ofChars_map_ofUInt8 {b : Bytes} (h : ∀ x ∈ b, x.toNat < 128) :
    ofChars (b.map Char.ofUInt8) = b := by
  rw [ofChars_eq_map, List.map_map]
  · exact List.map_id'' toUInt8_ofUInt8 b
  · intro c hc
    obtain ⟨x, hx, rfl⟩ := List.mem_map.mp hc
    exact h x hx

/-! ## Byte strings that are text -/

/-- The bytes are the encoding of a text. -/
def IsText (b : Bytes) : Prop := ∃ cs, ofChars cs = b

/-- The byte strings that can be decoded are the encodings of texts. -/
theorem exists_toText?_iff {b : Bytes} : (∃ s, toText? b = some s) ↔ IsText b := by
  constructor
  · rintro ⟨s, hs⟩
    rw [toText?, String.fromUTF8?] at hs
    split at hs
    · next h =>
      obtain ⟨cs, hcs⟩ := h
      rw [← toByteArray_ofChars] at hcs
      exact ⟨cs, (congrArg (·.data.toList) hcs).symm⟩
    · cases hs
  · rintro ⟨cs, rfl⟩
    exact ⟨String.ofList cs, by rw [← toText?_ofText, ofText, String.toList_ofList]⟩

/-- **A text in front does not matter**: whether bytes behind it are text is up to them alone. -/
theorem isText_ofChars_append_iff {cs : List Char} {b : Bytes} :
    IsText (ofChars cs ++ b) ↔ IsText b := by
  constructor
  · rintro ⟨ds, hds⟩
    have harray : cs.utf8Encode ++ ⟨b.toArray⟩ = ds.utf8Encode := by
      rw [← toByteArray_ofChars, ← toByteArray_ofChars, hds]
      exact ByteArray.ext (by simp)
    obtain ⟨es, rfl⟩ := List.isPrefix_of_utf8Encode_append_eq_utf8Encode _ harray
    rw [ofChars_append] at hds
    exact ⟨es, List.append_cancel_left hds⟩
  · rintro ⟨es, rfl⟩
    exact ⟨cs ++ es, ofChars_append cs es⟩

namespace IsText

theorem nil : IsText [] := ⟨[], rfl⟩

theorem ofText (s : String) : IsText (ofText s) := ⟨s.toList, rfl⟩

theorem append_iff {a b : Bytes} (ha : IsText a) : IsText (a ++ b) ↔ IsText b := by
  obtain ⟨cs, rfl⟩ := ha
  exact isText_ofChars_append_iff

theorem append {a b : Bytes} (ha : IsText a) (hb : IsText b) : IsText (a ++ b) :=
  ha.append_iff.mpr hb

theorem of_ascii {b : Bytes} (h : ∀ x ∈ b, x.toNat < 128) : IsText b :=
  ⟨_, ofChars_map_ofUInt8 h⟩

theorem cons_ascii {x : UInt8} {b : Bytes} (hx : x.toNat < 128) (hb : IsText b) :
    IsText (x :: b) :=
  append (of_ascii (List.forall_mem_singleton.mpr hx)) hb

/-- A text starts with the first byte of a character. -/
theorem isUTF8FirstByte {x : UInt8} {b : Bytes} (h : IsText (x :: b)) : x.IsUTF8FirstByte := by
  obtain ⟨cs, hcs⟩ := h
  cases cs with
  | nil => cases hcs
  | cons c cs =>
    have hlength : 0 < (String.utf8EncodeChar c).length :=
      (String.length_utf8EncodeChar c).symm ▸ c.utf8Size_pos
    have hfirst : (String.utf8EncodeChar c)[0].IsUTF8FirstByte :=
      UInt8.isUTF8FirstByte_getElem_utf8EncodeChar.mpr rfl
    rw [ofChars, List.flatMap_cons] at hcs
    match String.utf8EncodeChar c, hlength, hfirst, hcs with
    | _ :: _, _, hfirst, rfl => exact hfirst

end IsText

/-- All bytes of a character outside ASCII are. -/
theorem le_of_mem_utf8EncodeChar {c : Char} (h : 128 ≤ c.toNat) {x : UInt8}
    (hx : x ∈ String.utf8EncodeChar c) : 128 ≤ x := by
  have hval : ¬ c.val.toNat ≤ 127 := Nat.not_le.mpr h
  rw [String.utf8EncodeChar] at hx
  simp only [if_neg hval] at hx
  rw [UInt8.le_iff_toNat_le]
  split at hx
  · simp only [List.mem_cons, List.not_mem_nil, or_false] at hx
    rcases hx with rfl | rfl <;> simp <;> omega
  · split at hx
    · simp only [List.mem_cons, List.not_mem_nil, or_false] at hx
      rcases hx with rfl | rfl | rfl <;> simp <;> omega
    · simp only [List.mem_cons, List.not_mem_nil, or_false] at hx
      rcases hx with rfl | rfl | rfl | rfl <;> simp <;> omega

/-- **A character that is cut.**  A character outside ASCII takes two bytes or more, and what is
left of it without the first one does not start a text. -/
theorem exists_utf8EncodeChar {c : Char} (h : 128 ≤ c.toNat) :
    ∃ lead next rest, String.utf8EncodeChar c = lead :: next :: rest ∧
      ∀ b, ¬ IsText (next :: b) := by
  have hsize : 1 < (String.utf8EncodeChar c).length := by
    have hne : c.utf8Size ≠ 1 := fun hone ↦
      absurd (UInt32.le_iff_toNat_le.mp (Char.utf8Size_eq_one_iff.mp hone)) (Nat.not_le.mpr h)
    rw [String.length_utf8EncodeChar]
    exact Nat.lt_of_le_of_ne c.utf8Size_pos hne.symm
  have hnext : ¬ (String.utf8EncodeChar c)[1].IsUTF8FirstByte := fun hfirst ↦
    absurd (UInt8.isUTF8FirstByte_getElem_utf8EncodeChar.mp hfirst) Nat.one_ne_zero
  match String.utf8EncodeChar c, hsize, hnext with
  | lead :: next :: rest, _, hnext =>
    exact ⟨lead, next, rest, rfl, fun b hb ↦ hnext hb.isUTF8FirstByte⟩

/-! ## Forms -/

/-- The bytes have the form of a text: a digit where it has a zero, and otherwise the characters of
the text. -/
def Fits (form : List Char) (b : Bytes) : Prop :=
  List.Forall₂ (fun c x ↦ if c = '0' then 48 ≤ x ∧ x ≤ 57 else x = c.toUInt8) form b

namespace Fits

theorem length_eq {form : List Char} {b : Bytes} (h : Fits form b) : b.length = form.length :=
  (List.Forall₂.length_eq h).symm

theorem append {form form' : List Char} {b b' : Bytes} (h : Fits form b) (h' : Fits form' b') :
    Fits (form ++ form') (b ++ b') :=
  List.rel_append h h'

theorem nil : Fits [] [] := List.Forall₂.nil

theorem cons_digit {form : List Char} {b : Bytes} (h : Fits form b) {x : UInt8}
    (hx : 48 ≤ x ∧ x ≤ 57) : Fits ('0' :: form) (x :: b) :=
  List.Forall₂.cons (by rw [if_pos rfl]; exact hx) h

/-- A character of a form that is no zero stands for itself. -/
theorem cons_char {form : List Char} {b : Bytes} (h : Fits form b) {c : Char} (hc : c ≠ '0') :
    Fits (c :: form) (c.toUInt8 :: b) :=
  List.Forall₂.cons (by rw [if_neg hc]) h

/-- What holds of all digits and of the characters of a form holds of the bytes that have it. -/
theorem forall_mem {form : List Char} {b : Bytes} (h : Fits form b) {P : UInt8 → Prop}
    (hdigit : ∀ x : UInt8, 48 ≤ x → x ≤ 57 → P x) (hform : ∀ c ∈ form, P c.toUInt8) :
    ∀ x ∈ b, P x := by
  induction h with
  | nil => exact List.forall_mem_nil P
  | @cons c x form b hx hrest ih =>
    rw [List.forall_mem_cons] at hform ⊢
    refine ⟨?_, ih hform.2⟩
    split at hx
    · exact hdigit x hx.1 hx.2
    · exact hx ▸ hform.1

/-- Bytes that have a form in ASCII are text. -/
theorem isText {form : List Char} {b : Bytes} (h : Fits form b)
    (hform : form.all (fun c ↦ c.toNat < 128) = true) : IsText b := by
  rw [List.all_eq_true] at hform
  refine .of_ascii (h.forall_mem (fun x _ hx ↦ ?_) fun c hc ↦ ?_)
  · exact Nat.lt_of_le_of_lt (UInt8.le_iff_toNat_le.mp hx) (by decide)
  · have hascii := of_decide_eq_true (hform c hc)
    rwa [toNat_toUInt8 hascii]

end Fits

end Bytes
end Logline
