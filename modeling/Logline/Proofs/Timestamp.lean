import Logline.Proofs.Calendar
import Logline.Proofs.Rendering
import Logline.Proofs.Zone

/-!
# Rendered times read back

A date, a time of day and an offset, rendered one behind the other, tell when the record was made:
reading them back by the calendar gives the instant of its stamp.  In universal time the offset is
always zero.  In local time it is that of the host when the layout last asked for it, and so the
record has to have been stamped in the same offset, and in whole minutes, since no more is shown.

## What is here

* `Moment.text` — a date and a time of day; `Moment.fits_text` and `Moment.read?_text` say which
  form it has and that it reads back.  `Moment.written_append` has its fields.
* `Layout.format_of_year` — what a layout makes of any pattern in a year of four digits; for date,
  time of day and offset that is `Layout.format_stamp`, and `Record.read?_moment` says what is read
  of it.
* `Stage.read?_stamp` — **rendered times read back**.
-/

set_option autoImplicit false
namespace Logline

/-! ## A date and a time of day -/

namespace Moment

/-- Date and time of day, down to the microsecond. -/
def text (m : Moment) : Bytes :=
  m.calendar '-'.toUInt8 ++ 'T'.toUInt8 :: (m.clock ++ '.'.toUInt8 :: Digits.number m.micro 6)

/-- The same with another byte than the `T` between the two. -/
def written (sep : UInt8) (m : Moment) : Bytes :=
  m.calendar '-'.toUInt8 ++ sep :: (m.clock ++ '.'.toUInt8 :: Digits.number m.micro 6)

theorem text_eq (m : Moment) : m.text = m.written 'T'.toUInt8 := rfl

/-- Date and time of day field by field, in front of anything else. -/
theorem written_append (sep : UInt8) (m : Moment) (rest : Bytes) :
    m.written sep ++ rest =
      (Digits.pair m.century ++ Digits.pair m.yearOfCentury) ++ ('-'.toUInt8 ::
        (Digits.pair m.month ++ ('-'.toUInt8 :: (Digits.pair m.day ++ (sep ::
          (Digits.pair m.hour ++ (':'.toUInt8 :: (Digits.pair m.minute ++ (':'.toUInt8 ::
            (Digits.pair m.second ++ ('.'.toUInt8 ::
              (Digits.number m.micro 6 ++ rest)))))))))))) := by
  simp only [written, calendar, clock, Digits.date, Digits.triple, List.append_assoc,
    List.cons_append]

/-- A year of four digits is cut into two numbers of two digits. -/
theorem century_spec {m : Moment} (h0 : 0 ≤ m.year) (h1 : m.year ≤ 9999) :
    m.century < 100 ∧ m.yearOfCentury < 100 ∧
      ((100 * m.century + m.yearOfCentury : Nat) : Int) = m.year := by
  rw [century, yearOfCentury, word, word, Int.tdiv_eq_ediv_of_nonneg h0,
    Int.tmod_eq_emod_of_nonneg h0]
  omega

theorem Valid.lt_hundred {m : Moment} (h : m.Valid) :
    m.month < 100 ∧ m.day < 100 ∧ m.hour < 100 ∧ m.minute < 100 ∧ m.second < 100 := by
  obtain ⟨⟨-, hmonth, -, hday⟩, hhour, hminute, hsecond, -⟩ := h
  have hlength : Date.monthLength m.year m.month ≤ 31 := Date.monthLength_le _ _
  simp only at hmonth hday
  omega

/-- The form of a date and a time of day. -/
theorem fits_text {m : Moment} (h : m.Valid) (h0 : 0 ≤ m.year) (h1 : m.year ≤ 9999) :
    Bytes.Fits "0000-00-00T00:00:00.000000".toList m.text := by
  obtain ⟨hcentury, hyear, -⟩ := century_spec h0 h1
  obtain ⟨hmonth, hday, hhour, hminute, hsecond⟩ := h.lt_hundred
  have hdate : Bytes.Fits "0000-00-00".toList (m.calendar '-'.toUInt8) :=
    (((Digits.fits_pair hcentury).append (Digits.fits_pair hyear)).append
      ((Digits.fits_pair hmonth).cons_char (by decide))).append
      ((Digits.fits_pair hday).cons_char (by decide))
  have hclock : Bytes.Fits "00:00:00".toList m.clock :=
    ((Digits.fits_pair hhour).append ((Digits.fits_pair hminute).cons_char (by decide))).append
      ((Digits.fits_pair hsecond).cons_char (by decide))
  have hmicro : Bytes.Fits (List.replicate 6 '0') (Digits.number m.micro 6) :=
    Digits.fits_number (by decide) (by decide) h.2.2.2.2
  exact hdate.append ((hclock.append (hmicro.cons_char (by decide))).cons_char (by decide))

/-- **A date and a time of day read back.** -/
theorem read?_text {m : Moment} (h : m.Valid) (h0 : 0 ≤ m.year) (h1 : m.year ≤ 9999)
    (rest : Bytes) : read? (m.text ++ rest) = some (m, rest) := by
  obtain ⟨hcentury, hyear, hsum⟩ := century_spec h0 h1
  obtain ⟨hmonth, hday, hhour, hminute, hsecond⟩ := h.lt_hundred
  have hmicro : m.micro < 10 ^ 6 := h.2.2.2.2
  rw [text_eq, written_append]
  refine bind_of_eq_some (Digits.take?_pair_append hcentury hyear _) ?_
  refine bind_of_eq_some (Bytes.skip?_cons _ _) ?_
  refine bind_of_eq_some (Digits.take?_pair hmonth _) ?_
  refine bind_of_eq_some (Bytes.skip?_cons _ _) ?_
  refine bind_of_eq_some (Digits.take?_pair hday _) ?_
  refine bind_of_eq_some (Bytes.skip?_cons _ _) ?_
  refine bind_of_eq_some (Digits.take?_pair hhour _) ?_
  refine bind_of_eq_some (Bytes.skip?_cons _ _) ?_
  refine bind_of_eq_some (Digits.take?_pair hminute _) ?_
  refine bind_of_eq_some (Bytes.skip?_cons _ _) ?_
  refine bind_of_eq_some (Digits.take?_pair hsecond _) ?_
  refine bind_of_eq_some (Bytes.skip?_cons _ _) ?_
  refine bind_of_eq_some (Digits.take?_number (by decide) (by decide) hmicro _) ?_
  simp only [hsum]
  exact if_pos h

end Moment

/-! ## With an offset, in a layout -/

/-- The second that the clock of a stamp shows in either time mode. -/
def Timestamp.shownSecond (t : Timestamp) (utc : Bool) : Int :=
  if utc then t.second else t.second + t.offset

theorem Record.moment_eq (r : Record) (utc : Bool) :
    r.moment utc = Moment.ofSecond (r.created.shownSecond utc) r.created.nano := by
  cases utc <;> rfl

theorem Record.valid_moment (r : Record) (utc : Bool) : (r.moment utc).Valid := by
  rw [moment_eq]
  exact Moment.valid_ofSecond _ _

namespace Layout

/-- Whether a record can be rendered does not matter to one whose year has four digits. -/
theorem renders_of_year {l : Layout} {r : Record} (h0 : 0 ≤ (r.moment l.utc).year)
    (h1 : (r.moment l.utc).year ≤ 9999) : l.Renders r := by
  intro _ hutc
  rw [hutc] at h0 h1
  exact Moment.representable_of_year h0 h1

theorem format_of_year {l : Layout} {r : Record} (h0 : 0 ≤ (r.moment l.utc).year)
    (h1 : (r.moment l.utc).year ≤ 9999) (pattern : String) :
    (l.setPattern pattern).format (some r) =
      .ok ((Template.parse pattern).fill (r.field (r.moment l.utc) l.zone)) := by
  have hrenders : (l.setPattern pattern).Renders r := renders_of_year h0 h1
  rw [format_some, if_pos hrenders]
  rfl

/-- What a layout makes of a pattern for date, time of day and offset. -/
theorem format_stamp {l : Layout} {r : Record} (h0 : 0 ≤ (r.moment l.utc).year)
    (h1 : (r.moment l.utc).year ≤ 9999) :
    (l.setPattern "%YT%U%Z").format (some r) = .ok ((r.moment l.utc).text ++ l.zone.long) := by
  have htemplate : Template.parse "%YT%U%Z" =
      ⟨[], [⟨some .dateDash, ['T'.toUInt8]⟩, ⟨some .timeMicros, []⟩, ⟨some .zoneLong, []⟩]⟩ := by
    decide
  rw [format_of_year h0 h1, htemplate]
  simp only [Template.fill, Segment.fill, List.flatMap_cons, List.flatMap_nil, Option.map_some,
    Option.getD_some, Record.field, Moment.text, List.nil_append, List.append_nil,
    List.append_assoc, List.cons_append]

end Layout

/-- What is read of the fields at a second, and of an offset behind them. -/
theorem Instant.read?_text {second : Int} {nano : Nat} {zone : Bytes} {offset : Int}
    (h0 : 0 ≤ (Moment.ofSecond second nano).year)
    (h1 : (Moment.ofSecond second nano).year ≤ 9999) (hzone : Offset.read? zone = some offset) :
    read? ((Moment.ofSecond second nano).text ++ zone) =
      some ⟨second - offset, nano % 1000000000 / 1000⟩ := by
  have hvalid := Moment.valid_ofSecond second nano
  refine bind_of_eq_some (Moment.read?_text hvalid h0 h1 zone) ?_
  refine bind_of_eq_some hzone ?_
  rw [Moment.toSecond_ofSecond]
  rfl

/-- The moment of a record and an offset behind it read as the instant of the record, if the offset
is that of the clock that shows the moment. -/
theorem Record.read?_moment {r : Record} {utc : Bool} (h0 : 0 ≤ (r.moment utc).year)
    (h1 : (r.moment utc).year ≤ 9999) {zone : Bytes} {offset : Int}
    (hzone : Offset.read? zone = some offset)
    (hoffset : r.created.shownSecond utc - offset = r.created.second) :
    Instant.read? ((r.moment utc).text ++ zone) = some r.created.instant := by
  rw [moment_eq] at h0 h1 ⊢
  rw [Instant.read?_text h0 h1 hzone, hoffset]
  rfl

namespace Stage

/-- **Rendered times read back.**  In universal time, the rendering of a record whose year has four
digits is a date that exists, a time of day, and a `Z`, in 27 bytes; it reads as the instant of the
record.  In local time the rendering ends in the offset of the host, and reads as the instant of
the record if that was stamped in this offset, in whole minutes.  The reader goes by the calendar
alone, and `Date.toDay_next` says that it counts days. -/
theorem read?_stamp (o : Layout.Origin) (host : HostZone) (xs : List Step) (r : Record) :
    let l := ((ofOrigin host o).after xs).layout
    let rendered := (l.setPattern "%YT%U%Z").format (some r)
    (l.utc = true → 0 ≤ r.created.utc.year → r.created.utc.year ≤ 9999 →
      ∃ b m, rendered = .ok b ∧ b.length = 27 ∧
        Bytes.Fits "0000-00-00T00:00:00.000000Z".toList b ∧
        Moment.read? b = some (m, Bytes.ofText "Z") ∧ m.Valid ∧
        Instant.read? b = some r.created.instant) ∧
    (l.utc = false → r.created.offset = (captured host xs).offset → 60 ∣ r.created.offset →
      0 ≤ r.created.wallClock.year → r.created.wallClock.year ≤ 9999 →
      ∃ b m zone, rendered = .ok b ∧ Moment.read? b = some (m, zone) ∧ m.Valid ∧
        (Bytes.Fits "Z".toList zone ∨ Bytes.Fits "-00:00".toList zone ∨
          Bytes.Fits "+00:00".toList zone) ∧
        Instant.read? b = some r.created.instant) := by
  intro l rendered
  have hzone : l.zone = ZoneText.capture (captured host xs) l.utc :=
    (remembers_after o host xs).zone
  have hvalid : (r.moment l.utc).Valid := r.valid_moment l.utc
  refine ⟨fun hutc h0 h1 ↦ ?_, fun hutc hoffset hminutes h0 h1 ↦ ?_⟩
  · have hmoment : r.moment l.utc = r.created.utc := by rw [hutc]; rfl
    rw [← hmoment] at h0 h1
    have hlong : l.zone.long = Bytes.ofText "Z" := by rw [hzone, hutc]; rfl
    have hrendered : rendered = .ok ((r.moment l.utc).text ++ Bytes.ofText "Z") :=
      hlong ▸ Layout.format_stamp h0 h1
    have hfits : Bytes.Fits "0000-00-00T00:00:00.000000Z".toList
        ((r.moment l.utc).text ++ Bytes.ofText "Z") :=
      (Moment.fits_text hvalid h0 h1).append (Bytes.Fits.nil.cons_char (by decide))
    have hoffset : r.created.shownSecond l.utc - 0 = r.created.second := by
      rw [hutc, Int.sub_zero]
      rfl
    exact ⟨_, _, hrendered, hfits.length_eq, hfits, Moment.read?_text hvalid h0 h1 _, hvalid,
      Record.read?_moment h0 h1 rfl hoffset⟩
  · have hmoment : r.moment l.utc = r.created.wallClock := by rw [hutc]; rfl
    rw [← hmoment] at h0 h1
    rw [hoffset] at hminutes
    have hlong : Offset.read? l.zone.long = some (captured host xs).offset := by
      rw [hzone, hutc]
      exact ZoneText.read?_long hminutes
    have hfits := ZoneText.fits_long (captured host xs) l.utc
    rw [← hzone] at hfits
    have hshown : r.created.shownSecond l.utc - (captured host xs).offset = r.created.second := by
      rw [hutc, ← hoffset]
      exact Int.add_sub_cancel _ _
    exact ⟨_, _, _, Layout.format_stamp h0 h1, Moment.read?_text hvalid h0 h1 _, hvalid, hfits,
      Record.read?_moment h0 h1 hlong hshown⟩

/-- A leap second at the end of a leap day in universal time, and the same stamp on a host whose
clock is five and a half hours behind and shows the day before. -/
theorem read?_stamp_leap :
    let r : Record := { created := { second := 951868799, nano := 1999999999, offset := -19800 } }
    let host : HostZone := ⟨-19800, none, by decide⟩
    (∃ b, (((ofOrigin host .default).after [.setUtc true]).layout.setPattern "%YT%U%Z").format
        (some r) = .ok b ∧ b.length = 27 ∧ Instant.read? b = some ⟨951868799, 999999⟩) ∧
    ∃ b, (((ofOrigin ⟨0, none, by decide⟩ .default).after
        [.moveHost host, .setUtc false]).layout.setPattern "%YT%U%Z").format (some r) = .ok b ∧
      Instant.read? b = some ⟨951868799, 999999⟩ := by
  intro r host
  have huniversal := (read?_stamp .default host [.setUtc true] r).1
  have hlocal :=
    (read?_stamp .default ⟨0, none, by decide⟩ [.moveHost host, .setUtc false] r).2
  obtain ⟨b, -, hb, hlength, -, -, -, hread⟩ := huniversal rfl (by decide) (by decide)
  obtain ⟨c, -, -, hc, -, -, -, hread'⟩ :=
    hlocal rfl (by decide) (by decide) (by decide) (by decide)
  have hinstant : r.created.instant = ⟨951868799, 999999⟩ := by decide
  rw [hinstant] at hread hread'
  exact ⟨⟨b, hb, hlength, hread⟩, c, hc, hread'⟩

end Stage
end Logline
