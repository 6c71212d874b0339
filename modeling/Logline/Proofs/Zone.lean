import Logline.Proofs.Digits
import Logline.Timestamp

/-!
# Offsets as they are shown

An offset is shown by a sign and the digits of hours and minutes, with a colon between them or
without one.  It is shown to the nearest minute: half a minute counts as a whole one, on either side
of zero, and sixty of them make an hour, so that an offset of almost a day is shown as 24 hours.
Offsets in whole minutes lose nothing, and so they can be read back and told apart.

## What is here

* `Offset.Shows` — what a sign and the digits of hours and minutes say of an offset; by
  `Offset.shows_pairs` they say it of the one that they are written for, and by
  `Offset.Shows.ofFields?_eq` it is read back from them.
* `Offset.fits_spaced`, `Offset.read?_spaced` and `Offset.read?_compact` — the two ways to put them
  together.
* `ZoneText.fits_long` and `ZoneText.read?_long` — the long text of a host.
* `ZoneText.ofOffset_exact` — **the texts for an offset**, in a zone that may have a name.
-/

set_option autoImplicit false
namespace Logline

/-! ## An offset -/

namespace Offset

/-- What a sign and the digits of hours and minutes have to say of an offset. -/
structure Shows (offset : Int) (sign : UInt8) (hours minutes : Bytes) : Prop where
  sign_cases : sign = '-'.toUInt8 ∧ offset < 0 ∨ sign = '+'.toUInt8 ∧ 0 ≤ offset
  fits_hours : Bytes.Fits "00".toList hours
  fits_minutes : Bytes.Fits "00".toList minutes
  /-- The minutes are those of an hour, and both together are the size of the offset up to half a
  minute, which is added rather than left out. -/
  nearest : ∃ h m, Digits.value? hours = some h ∧ Digits.value? minutes = some m ∧ m < 60 ∧
    60 * (60 * h + m) ≤ offset.natAbs + 30 ∧ offset.natAbs + 30 < 60 * (60 * h + m) + 60

theorem minutes_le {offset : Int} (h : offset.natAbs < 86400) : minutes offset ≤ 1440 := by
  rw [minutes]
  omega

theorem sign_cases (offset : Int) :
    sign offset = '-'.toUInt8 ∧ offset < 0 ∨ sign offset = '+'.toUInt8 ∧ 0 ≤ offset := by
  rw [sign]
  split
  · next h => exact .inl ⟨rfl, h⟩
  · next h => exact .inr ⟨rfl, Int.not_lt.mp h⟩

/-- The sign, the hours and the minutes of an offset show it. -/
theorem shows_pairs {offset : Int} (h : offset.natAbs < 86400) :
    Shows offset (sign offset) (Digits.pair (minutes offset / 60))
      (Digits.pair (minutes offset % 60)) := by
  have hle := minutes_le h
  have hhours : minutes offset / 60 < 100 := by omega
  have hminutes : minutes offset % 60 < 60 := Nat.mod_lt _ (by decide)
  have hlt : minutes offset % 60 < 100 := Nat.lt_trans hminutes (by decide)
  refine ⟨sign_cases offset, Digits.fits_pair hhours, Digits.fits_pair hlt, _, _,
    Digits.value?_pair hhours, Digits.value?_pair hlt, hminutes, ?_⟩
  rw [Nat.div_add_mod, minutes]
  omega

/-- **What shows an offset in whole minutes reads as this offset.** -/
theorem Shows.ofFields?_eq {offset : Int} {sign : UInt8} {hours minutes : Bytes}
    (hshows : Shows offset sign hours minutes) (hm : 60 ∣ offset) :
    ofFields? sign hours minutes = some offset := by
  obtain ⟨hsign, -, -, h, m, hhours, hminutes, hlt, hnearest⟩ := hshows
  refine bind_of_eq_some hhours ?_
  refine bind_of_eq_some hminutes ?_
  rw [if_pos hlt]
  rcases hsign with ⟨rfl, hneg⟩ | ⟨rfl, hpos⟩
  · rw [if_pos rfl]
    congr 1
    omega
  · rw [if_neg (by decide), if_pos rfl]
    congr 1
    omega

/-- The form of an offset. -/
theorem fits_spaced {offset : Int} (h : offset.natAbs < 86400) :
    Bytes.Fits "-00:00".toList (spaced offset) ∨ Bytes.Fits "+00:00".toList (spaced offset) := by
  have hshows := shows_pairs h
  have hfields : Bytes.Fits "00:00".toList (Digits.pair (minutes offset / 60) ++
      ':'.toUInt8 :: Digits.pair (minutes offset % 60)) :=
    hshows.fits_hours.append (hshows.fits_minutes.cons_char (by decide))
  rw [spaced, List.cons_append]
  rcases hshows.sign_cases with ⟨hsign, -⟩ | ⟨hsign, -⟩ <;> rw [hsign]
  · exact .inl (hfields.cons_char (by decide))
  · exact .inr (hfields.cons_char (by decide))

/-- **An offset in whole minutes reads back**, with the colon and without it. -/
theorem read?_spaced {offset : Int} (h : offset.natAbs < 86400) (hm : 60 ∣ offset) :
    read? (spaced offset) = some offset :=
  (shows_pairs h).ofFields?_eq hm

theorem read?_compact {offset : Int} (h : offset.natAbs < 86400) (hm : 60 ∣ offset) :
    read? (compact offset) = some offset :=
  (shows_pairs h).ofFields?_eq hm

end Offset

/-! ## The long text of a host -/

namespace ZoneText

theorem long_ofOffset (offset : Int) (name : Option String) : (ofOffset offset name false).long =
    if offset = 0 then Bytes.ofText "Z" else Offset.spaced offset := rfl

theorem short_ofOffset_none (offset : Int) :
    (ofOffset offset none false).short = Offset.compact offset := rfl

theorem read?_long_ofOffset {offset : Int} (h : offset.natAbs < 86400) (hm : 60 ∣ offset)
    (name : Option String) : Offset.read? (ofOffset offset name false).long = some offset := by
  rw [long_ofOffset]
  split
  · next hzero => rw [hzero]; rfl
  · exact Offset.read?_spaced h hm

/-- The form of the long zone text. -/
theorem fits_long (host : HostZone) (utc : Bool) :
    Bytes.Fits "Z".toList (capture host utc).long ∨
      Bytes.Fits "-00:00".toList (capture host utc).long ∨
      Bytes.Fits "+00:00".toList (capture host utc).long := by
  have hz : Bytes.Fits "Z".toList (Bytes.ofText "Z") := Bytes.Fits.nil.cons_char (by decide)
  cases utc with
  | true => exact .inl hz
  | false =>
    rw [capture, long_ofOffset]
    split
    · exact .inl hz
    · exact .inr (Offset.fits_spaced host.offset_lt)

/-- The long zone text reads as the offset of the host. -/
theorem read?_long {host : HostZone} (hm : 60 ∣ host.offset) :
    Offset.read? (capture host false).long = some host.offset :=
  read?_long_ofOffset host.offset_lt hm _

/-! ## Both texts for an offset -/

/-- The texts that show an offset: the long one, and the short one unless that is a name. -/
def numerals (offset : Int) (name : Option String) : List Bytes :=
  (ofOffset offset name false).long ::
    if name = none then [(ofOffset offset name false).short] else []

theorem read?_of_mem_numerals {offset : Int} {name : Option String} (h : offset.natAbs < 86400)
    (hm : 60 ∣ offset) : ∀ b ∈ numerals offset name, Offset.read? b = some offset := by
  have hlong := read?_long_ofOffset h hm name
  cases name with
  | none => simpa [numerals, hlong, short_ofOffset_none] using Offset.read?_compact h hm
  | some n => simpa [numerals] using hlong

/-- **The texts for an offset**, in a zone that may have a name, at any time.  The long text is `Z`
for offset zero and for no other one.  There are a sign and two digits each of hours and minutes
that show the offset to the nearest minute; the long text of all other offsets has them with a colon
between hours and minutes.  The short text is the name of the zone, and if it has none, the same
sign, hours and minutes, which are `+0000` for offset zero.  In whole minutes, both texts read back
unless one of them is a name, and so two different offsets never have a text in common. -/
theorem ofOffset_exact (t : Timestamp) (name : Option String) :
    let texts := ofOffset t.offset name false
    (texts.long = Bytes.ofText "Z" ↔ t.offset = 0) ∧
    (∃ sign hours minutes, Offset.Shows t.offset sign hours minutes ∧
      (t.offset ≠ 0 → texts.long.length = 6 ∧
        texts.long = sign :: hours ++ ':'.toUInt8 :: minutes) ∧
      (∀ n, name = some n → texts.short = Bytes.ofText n) ∧
      (name = none → texts.short = sign :: hours ++ minutes)) ∧
    (t.offset = 0 → name = none → texts.short = Bytes.ofText "+0000") ∧
    (60 ∣ t.offset → ∀ b ∈ numerals t.offset name, Offset.read? b = some t.offset) ∧
    ∀ (t' : Timestamp) (name' : Option String), 60 ∣ t.offset → 60 ∣ t'.offset →
      t.offset ≠ t'.offset → List.Disjoint (numerals t.offset name) (numerals t'.offset name') := by
  intro texts
  have hlong : t.offset ≠ 0 → texts.long = Offset.spaced t.offset := fun hne ↦ by
    rw [long_ofOffset, if_neg hne]
  have hshort : name = none → texts.short = Offset.compact t.offset := by
    rintro rfl
    rfl
  refine ⟨⟨fun hz ↦ ?_, fun hzero ↦ ?_⟩, ⟨_, _, _, Offset.shows_pairs t.offset_lt, fun hne ↦ ?_,
    fun n hn ↦ ?_, hshort⟩, fun hzero hnone ↦ ?_, read?_of_mem_numerals t.offset_lt,
    fun t' name' hm hm' hne b hb hb' ↦ hne ?_⟩
  · by_contra hne
    have hlength : 6 = 1 := congrArg List.length ((hlong hne).symm.trans hz)
    exact absurd hlength (by decide)
  · rw [long_ofOffset, if_pos hzero]
  · exact ⟨congrArg List.length (hlong hne), hlong hne⟩
  · subst hn
    rfl
  · rw [hshort hnone, hzero]
    rfl
  · have hread := read?_of_mem_numerals t.offset_lt hm b hb
    rw [read?_of_mem_numerals t'.offset_lt hm' b hb'] at hread
    exact (Option.some.inj hread).symm

example : ofOffset (-86370) none false = ⟨Bytes.ofText "-2400", Bytes.ofText "-24:00"⟩ := by decide
example : ofOffset 3569 none false = ⟨Bytes.ofText "+0059", Bytes.ofText "+00:59"⟩ := by decide
example : ofOffset (-29) none false = ⟨Bytes.ofText "-0000", Bytes.ofText "-00:00"⟩ := by decide

end ZoneText
end Logline
