import Logline.Proofs.Timestamp
import Mathlib.Order.Compare
import Mathlib.Order.Monotone.Basic
import Mathlib.Tactic.Zify

/-!
# Sorting rendered times

A date and a time of day are written from the year down to the microsecond, each field in a fixed
number of digits.  So comparing two of them byte by byte comes to comparing their fields from the
front, and that is how their points in time compare: the days of the calendar follow each other in
blocks of a month, and the months in blocks of a year.

All of it is one pattern, a comparison that is decided in front and only in a tie behind
(`compare_eq_then`).  It is used for byte strings, for digits, for the calendar and for the clock.

## What is here

* `compare_eq_then` — comparing in two parts; `compare_mul_add` and `compare_append`, the same for
  numbers to a base and for byte strings.
* `Digits.compare_eq` — **digits compare as the numbers that they write**.
* `Date.compare_toDay` — **dates compare as the numbers of their days**; `Date.monthDay` has the
  first days of the months, which go up.
* `Moment.compare_toMicro` and `Moment.compare_written` — moments compare as the microseconds that
  they show, by their fields and as they are written.
* `Layout.compare_rendered` — **rendered times sort**.
-/

set_option autoImplicit false
namespace Logline

/-! ## Comparing in two parts -/

section Parts

variable {α β γ : Type} [LinearOrder α] [LinearOrder β] [LinearOrder γ]

theorem compare_congr {x x' : α} {i i' : β} (hlt : x < x' ↔ i < i') (hgt : x' < x ↔ i' < i) :
    compare x x' = compare i i' := by
  rcases lt_trichotomy i i' with h | h | h
  · rw [compare_lt_iff_lt.mpr h, compare_lt_iff_lt.mpr (hlt.mpr h)]
  · have heq : x = x' := le_antisymm (not_lt.mp fun hx ↦ (hgt.mp hx).ne' h)
      (not_lt.mp fun hx ↦ (hlt.mp hx).ne h)
    rw [compare_eq_iff_eq.mpr h, compare_eq_iff_eq.mpr heq]
  · rw [compare_gt_iff_gt.mpr h, compare_gt_iff_gt.mpr (hgt.mpr h)]

/-- **Comparing in two parts**: a comparison that is decided in front by `k`, and only in a tie
behind by `i`. -/
theorem compare_eq_then {x x' : α} {k k' : β} {i i' : γ} (hlt : k < k' → x < x')
    (hgt : k' < k → x' < x) (htie : k = k' → (x < x' ↔ i < i') ∧ (x' < x ↔ i' < i)) :
    compare x x' = (compare k k').then (compare i i') := by
  rcases lt_trichotomy k k' with h | h | h
  · rw [compare_lt_iff_lt.mpr h, compare_lt_iff_lt.mpr (hlt h)]
    rfl
  · rw [compare_eq_iff_eq.mpr h, compare_congr (htie h).1 (htie h).2]
    rfl
  · rw [compare_gt_iff_gt.mpr h, compare_gt_iff_gt.mpr (hgt h)]
    rfl

end Parts

/-- Numbers with one more digit behind, in any base, compare by what stands in front of it first. -/
theorem compare_mul_add {base a a' : Int} {b b' : Nat} (h : b < base) (h' : b' < base) :
    compare (base * a + b) (base * a' + b') = (compare a a').then (compare b b') := by
  have hlt : ∀ {x x' : Int} {y y' : Nat}, (y : Int) < base → x < x' →
      base * x + y < base * x' + y' := by
    intro x x' y y' hy hx
    have hbase : 0 ≤ base := by omega
    have hmul := Int.mul_le_mul_of_nonneg_left (show x + 1 ≤ x' from hx) hbase
    rw [Int.mul_add, Int.mul_one] at hmul
    omega
  refine compare_eq_then (hlt h) (hlt h') ?_
  rintro rfl
  omega

/-- Byte strings compare in two parts if the first ones are of the same length. -/
theorem compare_append {a a' : Bytes} (h : a.length = a'.length) (b b' : Bytes) :
    compare (a ++ b) (a' ++ b') = (compare a a').then (compare b b') := by
  induction a generalizing a' with
  | nil =>
    obtain rfl := List.eq_nil_of_length_eq_zero h.symm
    rfl
  | cons x a ih =>
    cases a' with
    | nil => cases h
    | cons x' a' =>
      rw [List.cons_append, List.cons_append, List.compare_cons_cons, List.compare_cons_cons,
        ih (Nat.succ.inj h), Ordering.then_assoc]

theorem compare_cons_self (x : UInt8) (b b' : Bytes) :
    compare (x :: b) (x :: b') = compare b b' := by
  rw [List.compare_cons_cons, Std.ReflOrd.compare_self]
  rfl

/-! ## Digits -/

namespace Digits

/-- Digits that are read onto numbers compare as these numbers do, and in a tie as digits. -/
theorem compare_valueFrom {a a' : Bytes} (hlength : a.length = a'.length) {acc acc' n n' : Nat}
    (h : valueFrom? acc a = some n) (h' : valueFrom? acc' a' = some n') :
    compare n n' = (compare acc acc').then (compare a a') := by
  induction a generalizing a' acc acc' with
  | nil =>
    obtain rfl := List.eq_nil_of_length_eq_zero hlength.symm
    rw [← Option.some.inj h, ← Option.some.inj h']
    exact Ordering.then_eq.symm
  | cons x a ih =>
    cases a' with
    | nil => cases hlength
    | cons x' a' =>
      rw [valueFrom?, Option.ite_none_right_eq_some] at h h'
      obtain ⟨hx, h⟩ := h
      obtain ⟨hx', h'⟩ := h'
      have hdigit : compare (10 * acc + (x.toNat - 48)) (10 * acc' + (x'.toNat - 48)) =
          (compare acc acc').then (compare x x') := by
        rw [UInt8.compare_eq_toNat_compare_toNat]
        simp only [UInt8.le_iff_toNat_le, UInt8.reduceToNat] at hx hx'
        exact compare_eq_then (by omega) (by omega) (by omega)
      rw [ih (Nat.succ.inj hlength) h h', hdigit, List.compare_cons_cons, Ordering.then_assoc]

/-- **Digits compare as the numbers that they write**, if there are as many of them. -/
theorem compare_eq {a a' : Bytes} (hlength : a.length = a'.length) {n n' : Nat}
    (h : value? a = some n) (h' : value? a' = some n') : compare a a' = compare n n' := by
  have hvalue : ∀ {b : Bytes} {k : Nat}, value? b = some k → valueFrom? 0 b = some k := by
    intro b k hb
    cases b with
    | nil => cases hb
    | cons x b => exact hb
  exact (compare_valueFrom hlength (hvalue h) (hvalue h')).symm

/-- A field of digits in front decides by its number. -/
theorem compare_append_eq {a a' : Bytes} (hlength : a.length = a'.length) {n n' : Nat}
    (h : value? a = some n) (h' : value? a' = some n') (b b' : Bytes) :
    compare (a ++ b) (a' ++ b') = (compare n n').then (compare b b') := by
  rw [compare_append hlength, compare_eq hlength h h']

/-- The same byte and two digits in front decide by the number. -/
theorem compare_cons_pair {n n' : Nat} (h : n < 100) (h' : n' < 100) (sep : UInt8) (b b' : Bytes) :
    compare (sep :: (pair n ++ b)) (sep :: (pair n' ++ b')) =
      (compare n n').then (compare b b') := by
  have hlength : (pair n).length = (pair n').length := rfl
  rw [compare_cons_self, compare_append_eq hlength (value?_pair h) (value?_pair h')]

end Digits

/-! ## Dates -/

namespace Date

/-- The months of all years, counted from the first one of year 0. -/
def monthIndex (d : Date) : Int := 12 * d.year + (d.month - 1)

/-- The number of the first day of a month, of all months of all years. -/
def monthDay (k : Int) : Int := toDay ⟨k / 12, (k % 12).toNat + 1, 1⟩

theorem one_le_monthLength (year : Int) (month : Nat) : 1 ≤ monthLength year month := by
  rw [monthLength]
  split
  · split <;> decide
  · split <;> decide

theorem toDay_eq_add (year : Int) (month day : Nat) :
    toDay ⟨year, month, day⟩ = toDay ⟨year, month, 1⟩ + (day - 1) := by
  rw [toDay_mk, toDay_mk]
  omega

/-- A month begins where the one before it ends. -/
theorem monthDay_succ (k : Int) :
    monthDay (k + 1) = monthDay k + monthLength (k / 12) ((k % 12).toNat + 1) := by
  let last : Date := ⟨k / 12, (k % 12).toNat + 1, monthLength (k / 12) ((k % 12).toNat + 1)⟩
  have hvalid : last.Valid :=
    ⟨Nat.le_add_left 1 _, show (k % 12).toNat + 1 ≤ 12 by omega, one_le_monthLength _ _,
      Nat.le_refl _⟩
  have hnext : last.next = ⟨(k + 1) / 12, ((k + 1) % 12).toNat + 1, 1⟩ := by
    rw [next, if_neg (Nat.lt_irrefl _)]
    split
    · next h =>
      simp only [last] at h ⊢
      congr 1 <;> omega
    · next h =>
      simp only [last] at h ⊢
      congr 1 <;> omega
  rw [monthDay, ← hnext, toDay_next hvalid, toDay_eq_add, monthDay]
  omega

/-- Later months begin later. -/
theorem monthDay_le {k k' : Int} (h : k ≤ k') : monthDay k ≤ monthDay k' := by
  have hmono : Monotone monthDay := monotone_int_of_le_succ fun k ↦ by
    rw [monthDay_succ]
    exact Int.le_add_of_nonneg_right (Int.natCast_nonneg _)
  exact hmono h

/-- The days of a month are counted from its first one, and end before that of the next month. -/
theorem monthDay_bounds {d : Date} (h : d.Valid) :
    toDay d = monthDay d.monthIndex + (d.day - 1) ∧ toDay d < monthDay (d.monthIndex + 1) := by
  obtain ⟨year, month, day⟩ := d
  obtain ⟨h1, h12, -, hday⟩ : 1 ≤ month ∧ month ≤ 12 ∧ 1 ≤ day ∧ day ≤ monthLength year month := h
  show toDay ⟨year, month, day⟩ = monthDay (12 * year + (month - 1)) + (day - 1) ∧
    toDay ⟨year, month, day⟩ < monthDay (12 * year + (month - 1) + 1)
  have hyear : (12 * year + (month - 1)) / 12 = year := by omega
  have hmonth : ((12 * year + (month - 1)) % 12).toNat + 1 = month := by omega
  rw [monthDay_succ, monthDay, hyear, hmonth, toDay_eq_add year month day]
  omega

/-- **Dates compare as the numbers of their days.** -/
theorem compare_toDay {d d' : Date} (h : d.Valid) (h' : d'.Valid) :
    compare (toDay d) (toDay d') =
      (compare d.year d'.year).then ((compare d.month d'.month).then (compare d.day d'.day)) := by
  have hmonth : compare d.monthIndex d'.monthIndex =
      (compare d.year d'.year).then (compare d.month d'.month) := by
    obtain ⟨h1, h12, -⟩ := h
    obtain ⟨h1', h12', -⟩ := h'
    simp only [monthIndex]
    exact compare_eq_then (by omega) (by omega) (by omega)
  have hday : 1 ≤ d.day := h.2.2.1
  have hday' : 1 ≤ d'.day := h'.2.2.1
  obtain ⟨heq, hlt⟩ := monthDay_bounds h
  obtain ⟨heq', hlt'⟩ := monthDay_bounds h'
  rw [← Ordering.then_assoc, ← hmonth]
  refine compare_eq_then (fun hk ↦ ?_) (fun hk ↦ ?_) fun hk ↦ ?_
  · have hnext := monthDay_le (show d.monthIndex + 1 ≤ d'.monthIndex from hk)
    omega
  · have hnext := monthDay_le (show d'.monthIndex + 1 ≤ d.monthIndex from hk)
    omega
  · rw [hk] at heq
    omega

end Date

/-! ## Dates with a time of day -/

namespace Moment

/-- The microsecond since 1970 that the fields show. -/
def toMicro (m : Moment) : Int := 1000000 * m.toSecond + m.micro

/-- **Moments compare as the microseconds that they show**, by their fields from the front. -/
theorem compare_toMicro {m m' : Moment} (h : m.Valid) (h' : m'.Valid) :
    compare m.toMicro m'.toMicro =
      (compare m.year m'.year).then ((compare m.month m'.month).then ((compare m.day m'.day).then
        ((compare m.hour m'.hour).then ((compare m.minute m'.minute).then
          ((compare m.second m'.second).then (compare m.micro m'.micro)))))) := by
  obtain ⟨hdate, hhour, hminute, hsecond, hmicro⟩ := h
  obtain ⟨hdate', hhour', hminute', hsecond', hmicro'⟩ := h'
  zify at hhour hminute hsecond hmicro hhour' hminute' hsecond' hmicro'
  have hdigits : ∀ m : Moment, m.toMicro = 1000000 * (60 * (60 * (24 *
      Date.toDay ⟨m.year, m.month, m.day⟩ + m.hour) + m.minute) + m.second) + m.micro := by
    intro m
    rw [toMicro, toSecond]
    omega
  rw [hdigits, hdigits, compare_mul_add hmicro hmicro', compare_mul_add hsecond hsecond',
    compare_mul_add hminute hminute', compare_mul_add hhour hhour', Date.compare_toDay hdate hdate']
  simp only [Ordering.then_assoc]

/-- **Written moments compare as the microseconds that they show**, in years of four digits. -/
theorem compare_written {m m' : Moment} (h : m.Valid) (h' : m'.Valid)
    (hyear : 0 ≤ m.year ∧ m.year ≤ 9999) (hyear' : 0 ≤ m'.year ∧ m'.year ≤ 9999) (sep : UInt8) :
    compare (m.written sep) (m'.written sep) = compare m.toMicro m'.toMicro := by
  obtain ⟨hcentury, hrest, hsum⟩ := century_spec hyear.1 hyear.2
  obtain ⟨hcentury', hrest', hsum'⟩ := century_spec hyear'.1 hyear'.2
  obtain ⟨hmonth, hday, hhour, hminute, hsecond⟩ := h.lt_hundred
  obtain ⟨hmonth', hday', hhour', hminute', hsecond'⟩ := h'.lt_hundred
  have hmicro : m.micro < 10 ^ 6 := h.2.2.2.2
  have hmicro' : m'.micro < 10 ^ 6 := h'.2.2.2.2
  have hyears : compare (100 * m.century + m.yearOfCentury) (100 * m'.century + m'.yearOfCentury) =
      compare m.year m'.year := compare_congr (by omega) (by omega)
  have hmicros : compare (Digits.number m.micro 6) (Digits.number m'.micro 6) =
      compare m.micro m'.micro := by
    have hlength := Digits.length_number (by decide) (by decide) hmicro
    have hlength' := Digits.length_number (by decide) (by decide) hmicro'
    exact Digits.compare_eq (hlength.trans hlength'.symm)
      (Digits.value?_number 6 (Nat.lt_trans hmicro (by decide)))
      (Digits.value?_number 6 (Nat.lt_trans hmicro' (by decide)))
  have hlength : (Digits.pair m.century ++ Digits.pair m.yearOfCentury).length =
      (Digits.pair m'.century ++ Digits.pair m'.yearOfCentury).length := rfl
  rw [compare_toMicro h h', ← List.append_nil (m.written sep), ← List.append_nil (m'.written sep),
    written_append, written_append, List.append_nil, List.append_nil,
    Digits.compare_append_eq hlength (Digits.value?_pair_append hcentury hrest)
      (Digits.value?_pair_append hcentury' hrest'), hyears,
    Digits.compare_cons_pair hmonth hmonth', Digits.compare_cons_pair hday hday',
    Digits.compare_cons_pair hhour hhour', Digits.compare_cons_pair hminute hminute',
    Digits.compare_cons_pair hsecond hsecond', compare_cons_self, hmicros]

end Moment

/-! ## In a layout -/

/-- The instant of a stamp in whole microseconds since 1970, the rest being cut off: also before
1970, the last one that is over by then. -/
def Timestamp.micros (t : Timestamp) : Int := (1000000000 * t.second + t.nano) / 1000

/-- Outside of leap seconds, the fields in universal time show the instant. -/
theorem Timestamp.toMicro_utc {t : Timestamp} (h : t.nano < 1000000000) :
    t.utc.toMicro = t.micros := by
  have hmicro : t.utc.micro = t.nano / 1000 :=
    congrArg (· / 1000) (Nat.mod_eq_of_lt h)
  rw [Moment.toMicro, hmicro, utc, Moment.toSecond_ofSecond, micros]
  omega

namespace Layout

/-- What a layout makes of a pattern for date and time of day. -/
theorem format_written {l : Layout} {r : Record} (h0 : 0 ≤ (r.moment l.utc).year)
    (h1 : (r.moment l.utc).year ≤ 9999) :
    (l.setPattern "%Y %U").format (some r) = .ok ((r.moment l.utc).written ' '.toUInt8) := by
  have htemplate : Template.parse "%Y %U" =
      ⟨[], [⟨some .dateDash, [' '.toUInt8]⟩, ⟨some .timeMicros, []⟩]⟩ := by
    decide
  rw [format_of_year h0 h1, htemplate]
  simp [Template.fill, Segment.fill, Record.field, Moment.written]

/-- **Rendered times sort.**  Dates and times of day in universal time, rendered by any two layouts
from the stamps of two records, compare byte by byte as the instants of the stamps do in whole
microseconds, if the years have four digits and neither stamp is in a leap second. -/
theorem compare_rendered {l l' : Layout} (hutc : l.utc = true) (hutc' : l'.utc = true)
    {r r' : Record} (hyear : 0 ≤ r.created.utc.year ∧ r.created.utc.year ≤ 9999)
    (hyear' : 0 ≤ r'.created.utc.year ∧ r'.created.utc.year ≤ 9999)
    (hnano : r.created.nano < 1000000000) (hnano' : r'.created.nano < 1000000000) :
    ∃ b b', (l.setPattern "%Y %U").format (some r) = .ok b ∧
      (l'.setPattern "%Y %U").format (some r') = .ok b' ∧
      compare b b' = compare r.created.micros r'.created.micros := by
  have hmoment : r.moment l.utc = r.created.utc := by rw [hutc]; rfl
  have hmoment' : r'.moment l'.utc = r'.created.utc := by rw [hutc']; rfl
  have hvalid := r.valid_moment l.utc
  have hvalid' := r'.valid_moment l'.utc
  rw [← hmoment] at hyear
  rw [← hmoment'] at hyear'
  refine ⟨_, _, format_written hyear.1 hyear.2, format_written hyear'.1 hyear'.2, ?_⟩
  rw [Moment.compare_written hvalid hvalid' hyear hyear', hmoment, hmoment',
    Timestamp.toMicro_utc hnano, Timestamp.toMicro_utc hnano']

/-- Two stamps in the last two microseconds before 1970, and two in the last microsecond of a leap
day, taken on clocks of different offsets. -/
theorem compare_rendered_ends :
    let l : Layout := ⟨Template.parse "", true, ZoneText.universal⟩
    let before : Record := { created := { second := -1, nano := 999998999, offset := 0 } }
    let last : Record := { created := { second := -1, nano := 999999999, offset := 0 } }
    let leap : Record := { created := { second := 951868799, nano := 999999000, offset := 3600 } }
    let leap' : Record := { created := { second := 951868799, nano := 999999999, offset := 0 } }
    (∃ b b', (l.setPattern "%Y %U").format (some before) = .ok b ∧
      (l.setPattern "%Y %U").format (some last) = .ok b' ∧ compare b b' = .lt) ∧
    ∃ b b', (l.setPattern "%Y %U").format (some leap) = .ok b ∧
      (l.setPattern "%Y %U").format (some leap') = .ok b' ∧ compare b b' = .eq := by
  intro l before last leap leap'
  obtain ⟨a, a', ha, ha', hbefore⟩ := @compare_rendered l l rfl rfl before last
    (by decide) (by decide) (by decide) (by decide)
  obtain ⟨b, b', hb, hb', hleap⟩ := @compare_rendered l l rfl rfl leap leap'
    (by decide) (by decide) (by decide) (by decide)
  exact ⟨⟨a, a', ha, ha', hbefore.trans (by decide)⟩, b, b', hb, hb', hleap.trans (by decide)⟩

end Layout
end Logline
