import Logline.Proofs.Json
import Logline.Proofs.ShortestDecimal
import Mathlib.Data.List.Forall2

/-!
# The compact form of a document

The compact form is determined by a grammar without blanks: a number is its digits, a string its
characters, each escaped in the one way it has or not at all, and the items of an array and the
members of an object follow each other with a comma between two.  Only floating-point numbers need
more than that.  The text of one is the shortest decimal that rounds to it, and where its point
belongs decides which of four shapes that decimal has.

## What is here

* `Decimal.Written` — the four shapes of a decimal, and `Decimal.written_decimalText`, which says
  that `Json.decimalText` writes them.
* `Decimal.Written.exists_shows` — a decimal in one of these shapes is a numeral that stands for it.
* `Json.FloatText` — the text of a floating-point number, with `Json.floatText_floatText`, and
  `Json.read?_floatText`: **it reads as the shortest decimal of the number**.
* `Json.CompactText` — the grammar, and `Json.compactText_compact`: **the compact form of a document
  follows it**.
-/

set_option autoImplicit false
namespace Logline

/-! ## Decimals -/

/-- The ways to write digits whose decimal point belongs `point` places behind the front of the
first one.  A point that is near enough is written at its place, with at least one digit on either
side, and any other one behind the first digit, with an exponent that says where it belongs. -/
inductive Decimal.Written (ds : List Char) (point : Int) : List Char → Prop where
  /-- The point is behind the digits, with zeros up to it. -/
  | whole {zeros : Nat} (h : point = ds.length + zeros) (hle : point ≤ 16) :
    Written ds point (ds ++ List.replicate zeros '0' ++ ['.', '0'])
  /-- The point is between two digits. -/
  | split {front back : List Char} (h : ds = front ++ back) (hfront : front ≠ [])
    (hback : back ≠ []) (hpoint : point = front.length) (hle : point ≤ 16) :
    Written ds point (front ++ '.' :: back)
  /-- The point is in front of the digits, with zeros behind it. -/
  | small {zeros : Nat} (h : point = -zeros) (hlt : zeros < 5) :
    Written ds point ('0' :: '.' :: List.replicate zeros '0' ++ ds)
  /-- The point is behind the first digit, unless there is no other. -/
  | scientific {d : Char} {rest : List Char} (h : ds = d :: rest)
    (hpoint : point ≤ -5 ∨ 16 < point) :
    Written ds point (d :: (if rest = [] then [] else '.' :: rest) ++
      'e' :: (if point - 1 < 0 then '-' else '+') :: Nat.toDigits 10 (point - 1).natAbs)

theorem Decimal.written_decimalText {ds : List Char} (hne : ds ≠ []) (point : Int) :
    Written ds point (Json.decimalText ds point) := by
  rw [Json.decimalText]
  split
  · next h => exact .whole (by omega) h.2
  split
  · next hwhole h =>
    have hlength : (ds.take point.toNat).length = point.toNat := by
      rw [List.length_take]
      omega
    refine .split (List.take_append_drop _ _).symm ?_ ?_ ?_ h.2
    · rw [← List.length_pos_iff]
      omega
    · rw [← List.length_pos_iff, List.length_drop]
      omega
    · omega
  split
  · next h => exact .small (by omega) (by omega)
  · next hsplit hsmall =>
    obtain ⟨d, rest, rfl⟩ := List.exists_cons_of_ne_nil hne
    have hfraction : (if (d :: rest).length ≤ 1 then [] else '.' :: (d :: rest).drop 1) =
        if rest = [] then [] else '.' :: rest := by
      cases rest <;> rfl
    have hlength := List.length_pos_iff.mpr hne
    rw [hfraction]
    exact .scientific rfl (by omega)

/-! ## Decimals as numerals -/

namespace Json.Numeral

/-- What a numeral stands for. -/
def value (n : Numeral) : ℚ :=
  let fraction := n.fraction.getD []
  (if n.negative then -1 else 1) *
    (Nat.ofDigitChars 10 (n.whole ++ fraction) 0 * 10 ^ (n.exponent.getD 0 - fraction.length))

/-- A numeral that is written without a sign but with a fraction or an exponent, and stands for
digits times a power of ten. -/
structure Shows (n : Numeral) (text ds : List Char) (k : Int) : Prop where
  proper : n.Proper
  unsigned : n.negative = false
  text_eq : n.text = text
  broken : n.fraction ≠ none ∨ n.exponent ≠ none
  value_eq : n.value = Nat.ofDigitChars 10 ds 0 * 10 ^ k

theorem isDigit_of_mem_zeros (zeros : Nat) : ∀ c ∈ List.replicate zeros '0', c.isDigit = true := by
  intro c hc
  rw [List.eq_of_mem_replicate hc]
  rfl

theorem shows_whole {ds : List Char} (hdigit : ∀ c ∈ ds, c.isDigit = true) (hne : ds ≠ [])
    (hzero : ds.head? ≠ some '0') (zeros : Nat) :
    Shows ⟨false, ds ++ List.replicate zeros '0', some ['0'], none⟩
      (ds ++ List.replicate zeros '0' ++ ['.', '0']) ds zeros := by
  have hdigits : Nat.ofDigitChars 10 (ds ++ List.replicate zeros '0' ++ ['0']) 0 =
      10 ^ (zeros + 1) * Nat.ofDigitChars 10 ds 0 := by
    rw [List.append_assoc, ← List.replicate_succ', Nat.ofDigitChars_append,
      Nat.ofDigitChars_replicate_zero]
  have hpow : ((10 ^ (zeros + 1) : Nat) : ℚ) * 10 ^ (0 - 1 : Int) = 10 ^ (zeros : Int) := by
    rw [Decimal.natCast_pow_mul_zpow]
    congr 1
    push_cast
    ring
  refine ⟨⟨?_, ?_, ?_, ?_⟩, rfl, ?_, .inl nofun, ?_⟩
  · exact List.append_ne_nil_of_left_ne_nil hne _
  · exact List.forall_mem_append.mpr ⟨hdigit, isDigit_of_mem_zeros zeros⟩
  · rw [List.head?_append_of_ne_nil _ hne]
    exact fun hhead ↦ absurd hhead hzero
  · rintro _ ⟨⟩
    exact ⟨nofun, isDigit_of_mem_zeros 1⟩
  · simp [text, tail]
  · rw [← hpow, mul_left_comm, ← mul_assoc, ← Nat.cast_mul, ← hdigits]
    exact one_mul _

theorem shows_split {front back : List Char} (hdigit : ∀ c ∈ front ++ back, c.isDigit = true)
    (hfront : front ≠ []) (hback : back ≠ []) (hzero : (front ++ back).head? ≠ some '0') :
    Shows ⟨false, front, some back, none⟩ (front ++ '.' :: back) (front ++ back)
      (front.length - (front ++ back).length) := by
  obtain ⟨hwhole, hfraction⟩ := List.forall_mem_append.mp hdigit
  rw [List.head?_append_of_ne_nil _ hfront] at hzero
  refine ⟨⟨hfront, hwhole, fun hhead ↦ absurd hhead hzero, ?_⟩, rfl, ?_, .inl nofun, ?_⟩
  · rintro _ ⟨⟩
    exact ⟨hback, hfraction⟩
  · simp [text, tail]
  · simp [value]

theorem shows_small {ds : List Char} (hdigit : ∀ c ∈ ds, c.isDigit = true) (hne : ds ≠ [])
    (zeros : Nat) :
    Shows ⟨false, ['0'], some (List.replicate zeros '0' ++ ds), none⟩
      ('0' :: '.' :: List.replicate zeros '0' ++ ds) ds (-zeros - ds.length) := by
  have hdigits : Nat.ofDigitChars 10 (['0'] ++ (List.replicate zeros '0' ++ ds)) 0 =
      Nat.ofDigitChars 10 ds 0 := by
    rw [← List.append_assoc, List.singleton_append, ← List.replicate_succ,
      Nat.ofDigitChars_append, Nat.ofDigitChars_replicate_zero, Nat.mul_zero]
  have hexponent : (0 : Int) - (List.replicate zeros '0' ++ ds).length = -zeros - ds.length := by
    rw [List.length_append, List.length_replicate]
    push_cast
    ring
  refine ⟨⟨nofun, isDigit_of_mem_zeros 1, fun _ ↦ rfl, ?_⟩, rfl, ?_, .inl nofun, ?_⟩
  · rintro _ ⟨⟩
    exact ⟨List.append_ne_nil_of_right_ne_nil _ hne,
      List.forall_mem_append.mpr ⟨isDigit_of_mem_zeros zeros, hdigit⟩⟩
  · simp [text, tail]
  · rw [← hdigits, ← hexponent]
    exact one_mul _

theorem shows_scientific {d : Char} {rest : List Char} (hdigit : ∀ c ∈ d :: rest, c.isDigit = true)
    (hzero : (d :: rest).head? ≠ some '0') (point : Int) :
    Shows ⟨false, [d], if rest = [] then none else some rest, some (point - 1)⟩
      (d :: (if rest = [] then [] else '.' :: rest) ++
        'e' :: (if point - 1 < 0 then '-' else '+') :: Nat.toDigits 10 (point - 1).natAbs)
      (d :: rest) (point - (d :: rest).length) := by
  rw [List.forall_mem_cons] at hdigit
  have hfraction : (if rest = [] then none else some rest).getD [] = rest := by
    cases rest <;> rfl
  have hexponent : point - (d :: rest).length = point - 1 - rest.length := by
    rw [List.length_cons]
    push_cast
    ring
  refine ⟨⟨nofun, List.forall_mem_singleton.mpr hdigit.1, fun hhead ↦ absurd hhead hzero, ?_⟩, rfl,
    ?_, .inr nofun, ?_⟩
  · intro digits hdigits
    obtain ⟨hrest, heq⟩ := Option.ite_none_left_eq_some.mp hdigits
    obtain rfl := Option.some.inj heq
    exact ⟨hrest, hdigit.2⟩
  · cases rest <;> simp [text, tail]
  · rw [hexponent]
    simp [value, hfraction]

end Json.Numeral

/-- **A written decimal is a numeral** that has a fraction or an exponent and stands for the
decimal. -/
theorem Decimal.Written.exists_shows {ds text : List Char} {point : Int} (h : Written ds point text)
    (hne : ds ≠ []) (hdigit : ∀ c ∈ ds, c.isDigit = true) (hzero : ds.head? ≠ some '0') :
    ∃ numeral : Json.Numeral, numeral.Shows text ds (point - ds.length) := by
  cases h with
  | @whole zeros h _ =>
    rw [h, add_sub_cancel_left]
    exact ⟨_, Json.Numeral.shows_whole hdigit hne hzero zeros⟩
  | split h hfront hback hpoint _ =>
    subst h hpoint
    exact ⟨_, Json.Numeral.shows_split hdigit hfront hback hzero⟩
  | @small zeros h _ =>
    rw [h]
    exact ⟨_, Json.Numeral.shows_small hdigit hne zeros⟩
  | scientific h _ =>
    subst h
    exact ⟨_, Json.Numeral.shows_scientific hdigit hzero point⟩

namespace Json

open Float.Model UnpackedFloat

/-- A minus sign or nothing. -/
def signMark : Sign → List Char
  | .negative => ['-']
  | .positive => []

/-- The text of a floating-point number: its sign and its shortest decimal.  Nothing is said about
numbers that are not finite, for they are in no document. -/
inductive FloatText : UnpackedFloat → List Char → Prop where
  | zero {s : Sign} : FloatText (.zero s) (signMark s ++ ['0', '.', '0'])
  | finite {s : Sign} {m : Nat} {e : Int} {hm : 0 < m} {n : Nat} {k : Int} {text : List Char}
    (hlast : n % 10 ≠ 0) (hshortest : Decimal.Shortest m e n k)
    (h : Decimal.Written (Nat.toDigits 10 n) (k + (Nat.toDigits 10 n).length) text) :
    FloatText (.finite s m e hm) (signMark s ++ text)
  | infinity {s : Sign} {text : List Char} : FloatText (.infinity s) text
  | notANumber {text : List Char} : FloatText .notANumber text

theorem floatText_eq {x : Float} {s : Sign}
    (h : (Decimal.shortest x).negative = true ↔ s = .negative) :
    floatText x =
      signMark s ++ decimalText (Decimal.shortest x).digits (Decimal.shortest x).point := by
  rw [floatText]
  cases s with
  | negative => exact if_pos (h.mpr rfl)
  | positive => exact if_neg fun hnegative ↦ nomatch h.mp hnegative

/-- **The text of a floating-point number is its shortest decimal.** -/
theorem floatText_floatText (x : Float) : FloatText x.toModel.unpack (floatText x) := by
  cases h : x.toModel.unpack with
  | zero s =>
    obtain ⟨hsign, hdigits, hpoint⟩ := Decimal.shortest_of_zero h
    rw [floatText_eq hsign, hdigits, hpoint]
    exact .zero
  | finite s m e hm =>
    obtain ⟨hsign, n, k, hlast, hshortest, hdigits, hpoint⟩ := Decimal.shortest_of_finite h
    rw [floatText_eq hsign, hdigits, hpoint]
    exact .finite hlast hshortest (Decimal.written_decimalText Nat.toDigits_ne_nil _)
  | infinity s => exact .infinity
  | notANumber => exact .notANumber

/-- **The text of a floating-point number reads as its shortest decimal**: as a numeral that stands
for it, and that is no integer. -/
theorem read?_floatText {x : Float} {s : Sign} {m : Nat} {e : Int} {hm : 0 < m}
    (hx : x.toModel.unpack = .finite s m e hm) :
    ∃ (numeral : Numeral) (n : Nat) (k : Int), Numeral.read? (floatText x) = some numeral ∧
      (numeral.fraction ≠ none ∨ numeral.exponent ≠ none) ∧ Decimal.Shortest m e n k ∧
      numeral.value = s.apply n * 10 ^ k := by
  have hwritten := floatText_floatText x
  rw [hx] at hwritten
  generalize floatText x = text at hwritten ⊢
  cases hwritten with
  | @finite _ _ _ _ n k text hlast hshortest h =>
  obtain ⟨numeral, hshows⟩ := h.exists_shows Nat.toDigits_ne_nil
    (fun c hc ↦ Nat.isDigit_of_mem_toDigits (by decide) (by decide) hc)
    (head?_toDigits_ne_zero (by omega))
  obtain ⟨negative, whole, fraction, exponent⟩ := numeral
  obtain ⟨⟨hne, hdigit, hzero, hfraction⟩, rfl, htext, hbroken, hvalue⟩ := hshows
  rw [Nat.ofDigitChars_ten_toDigits, add_sub_cancel_right] at hvalue
  rw [← htext]
  cases s with
  | positive =>
    exact ⟨_, n, k, Numeral.read?_text ⟨hne, hdigit, hzero, hfraction⟩, hbroken, hshortest, hvalue⟩
  | negative =>
    have hread : Numeral.read? (Numeral.text ⟨true, whole, fraction, exponent⟩) = some _ :=
      Numeral.read?_text ⟨hne, hdigit, hzero, hfraction⟩
    refine ⟨_, n, k, hread, hbroken, hshortest, ?_⟩
    rw [Numeral.value] at hvalue ⊢
    simp only [Bool.false_eq_true, if_false, one_mul, if_true] at hvalue ⊢
    rw [hvalue, Sign.apply]
    push_cast
    ring

theorem integerText_eq (n : Int) : integerText n = (toString n).toList := by
  cases n with
  | ofNat n =>
    have htext : toString (Int.ofNat n) = Nat.repr n := rfl
    rw [htext, Nat.toList_repr]
    exact if_neg (Int.natCast_nonneg n).not_gt
  | negSucc n =>
    have htext : toString (Int.negSucc n) = "-" ++ Nat.repr (n + 1) := rfl
    rw [htext, String.toList_append, Nat.toList_repr]
    exact if_pos (Int.negSucc_lt_zero n)

/-! ## Strings -/

/-- The characters with a short escape, and the letter of each. -/
def shortEscapes : List (Char × Char) :=
  [('"', '"'), ('\\', '\\'), ('\x08', 'b'), ('\x0C', 'f'), ('\n', 'n'), ('\r', 'r'), ('\t', 't')]

/-- A character in a string.  Control characters without a short escape have one with four
hexadecimal digits. -/
inductive CharText : Char → List Char → Prop where
  | plain {c : Char} (h : 0x20 ≤ c.toNat) (hquote : c ≠ '"') (hslash : c ≠ '\\') : CharText c [c]
  | short {c letter : Char} (h : (c, letter) ∈ shortEscapes) : CharText c ['\\', letter]
  | control {c : Char} (h : c.toNat < 0x20) (hnone : ∀ letter, (c, letter) ∉ shortEscapes) :
    CharText c ('\\' :: 'u' :: (Nat.toDigits 16 c.toNat).leftpad 4 '0')

/-- A string in quotation marks. -/
def StringText (s : String) (text : List Char) : Prop :=
  ∃ texts, List.Forall₂ CharText s.toList texts ∧ text = '"' :: texts.flatten ++ ['"']

theorem charText_quotedChar (c : Char) : CharText c (quotedChar c) := by
  fun_cases quotedChar c with
  | case1 => exact .short (by decide)
  | case2 => exact .short (by decide)
  | case3 => exact .short (by decide)
  | case4 => exact .short (by decide)
  | case5 => exact .short (by decide)
  | case6 => exact .short (by decide)
  | case7 => exact .short (by decide)
  | case8 _ hlt =>
    have hunit : ∀ n < 0x20, (Nat.toDigits 16 n).leftpad 4 '0' =
        ['0', '0', Nat.digitChar (n / 16), Nat.digitChar (n % 16)] := by decide
    rw [if_pos hlt, ← hunit _ hlt]
    refine .control hlt fun letter ↦ ?_
    simp_all [shortEscapes]
  | case9 _ hge hquote hslash =>
    rw [if_neg hge]
    exact .plain (by omega) hquote hslash

theorem stringText_quoted (s : String) : StringText s (quoted s) := by
  refine ⟨s.toList.map quotedChar, ?_, ?_⟩
  · rw [List.forall₂_map_right_iff, List.forall₂_same]
    exact fun c _ ↦ charText_quotedChar c
  · rw [quoted, List.flatMap_def]

/-! ## Documents -/

mutual

/-- **The compact form of a document.** -/
inductive CompactText : Json → List Char → Prop where
  | null : CompactText .null "null".toList
  | true : CompactText (.bool true) "true".toList
  | false : CompactText (.bool false) "false".toList
  | integer {n : Int} : CompactText (.number (.integer n)) (toString n).toList
  | float {x : Float} {text : List Char} (h : FloatText x.toModel.unpack text) :
    CompactText (.number (.float x)) text
  | string {s : String} {text : List Char} (h : StringText s text) : CompactText (.string s) text
  | array {items : List Json} {texts : List (List Char)}
    (h : List.Forall₂ CompactText items texts) :
    CompactText (.array items) ('[' :: [','].intercalate texts ++ [']'])
  | object {members : List (String × Json)} {texts : List (List Char)}
    (h : List.Forall₂ MemberText members texts) :
    CompactText (.object members) ('\x7b' :: [','].intercalate texts ++ ['\x7d'])

/-- The compact form of a member of an object. -/
inductive MemberText : String × Json → List Char → Prop where
  | mk {key : String} {value : Json} {keyText valueText : List Char} (hkey : StringText key keyText)
    (hvalue : CompactText value valueText) : MemberText (key, value) (keyText ++ ':' :: valueText)

end

/-- All but the first of several texts have the separator in front. -/
theorem intercalate_cons {α : Type} (sep text : List α) (texts : List (List α)) :
    sep.intercalate (text :: texts) = text ++ texts.flatMap (sep ++ ·) := by
  induction texts generalizing text with
  | nil => rw [List.intercalate_singleton, List.flatMap_nil, List.append_nil]
  | cons next texts ih =>
    rw [List.intercalate_cons_cons, ih, List.flatMap_cons, List.append_assoc, List.append_assoc]

theorem itemChars_false (items : List Json) :
    itemChars false items = (items.map chars).flatMap ([','] ++ ·) := by
  induction items with
  | nil => rfl
  | cons v items ih =>
    rw [itemChars, ih]
    rfl

theorem itemChars_true (items : List Json) :
    itemChars true items = [','].intercalate (items.map chars) := by
  cases items with
  | nil => rfl
  | cons v items =>
    rw [List.map_cons, intercalate_cons, itemChars, itemChars_false]
    rfl

/-- The characters of a member of an object. -/
def pairChars (m : String × Json) : List Char := quoted m.1 ++ ':' :: chars m.2

theorem memberChars_false (members : List (String × Json)) :
    memberChars false members = (members.map pairChars).flatMap ([','] ++ ·) := by
  induction members with
  | nil => rfl
  | cons m members ih =>
    rw [memberChars, ih, List.map_cons, List.flatMap_cons, pairChars]
    simp only [Bool.false_eq_true, if_false, List.append_assoc]

theorem memberChars_true (members : List (String × Json)) :
    memberChars true members = [','].intercalate (members.map pairChars) := by
  cases members with
  | nil => rfl
  | cons m members =>
    rw [List.map_cons, intercalate_cons, memberChars, memberChars_false]
    rfl

mutual

theorem compactText_chars : (v : Json) → CompactText v (chars v)
  | .null => .null
  | .bool true => .true
  | .bool false => .false
  | .number (.integer n) => by
    rw [chars, numberText, integerText_eq]
    exact .integer
  | .number (.float x) => .float (floatText_floatText x)
  | .string s => .string (stringText_quoted s)
  | .array items => by
    rw [chars, itemChars_true]
    exact .array (compactText_items items)
  | .object members => by
    rw [chars, memberChars_true]
    exact .object (memberText_members members)

theorem compactText_items :
    (items : List Json) → List.Forall₂ CompactText items (items.map chars)
  | [] => .nil
  | v :: items => .cons (compactText_chars v) (compactText_items items)

theorem memberText_members :
    (members : List (String × Json)) → List.Forall₂ MemberText members (members.map pairChars)
  | [] => .nil
  | (key, value) :: members =>
    .cons (.mk (stringText_quoted key) (compactText_chars value)) (memberText_members members)

end

/-- **The compact form of a document follows the grammar.** -/
theorem compactText_compact (v : Json) : CompactText v v.compact.toList := by
  rw [compact, String.toList_ofList]
  exact compactText_chars v

end Json
end Logline
