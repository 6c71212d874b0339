import Logline.Proofs.Timestamp

/-!
# Universal and local time

A template that shows neither form of the zone knows of the clock of a record only what it shows: a
second and the nanoseconds in it.  So the offset of a stamp does not show in universal time, and
local time is universal time for a stamp that is moved by its offset.

All of this follows from one statement about two renderings, which may be in different time modes
and with different zone texts: they are equal if they show the same second.

## What is here

* `Template.Zoneless` — a template without either form of the zone.
* `Timestamp.withOffset` and `Timestamp.moved` — a stamp at another offset, and a stamp that is
  moved by its own.
* `Layout.format_eq_of_shown` — **two renderings that show the same second are equal**.
* `Layout.format_moved` — what that means for the two time modes.
-/

set_option autoImplicit false
namespace Logline

/-- The template shows neither form of the zone. -/
def Template.Zoneless (t : Template) : Prop :=
  ∀ s ∈ t.segments, s.code ≠ some .zoneLong ∧ s.code ≠ some .zoneShort

instance (t : Template) : Decidable t.Zoneless := by
  unfold Template.Zoneless
  infer_instance

namespace Timestamp

/-- The same instant on a clock with another offset. -/
def withOffset (t : Timestamp) (offset : Int) (h : offset.natAbs < 86400) : Timestamp :=
  { t with offset, offset_lt := h }

/-- The instant at which a clock in universal time shows what the clock of the stamp shows. -/
def moved (t : Timestamp) (h : Representable (t.second + t.offset)) : Timestamp :=
  { t with second := t.second + t.offset, second_mem := h }

end Timestamp

/-- A code that is no form of the zone stands for the same text whatever the zone and the stamp, as
long as the moment is the same. -/
theorem Record.field_stamped (r : Record) (stamp : Timestamp) (m : Moment) (zone zone' : ZoneText)
    {c : Code} (hlong : c ≠ .zoneLong) (hshort : c ≠ .zoneShort) :
    ({ r with created := stamp } : Record).field m zone c = r.field m zone' c := by
  cases c with
  | zoneLong => exact absurd rfl hlong
  | zoneShort => exact absurd rfl hshort
  | _ => rfl

theorem Template.Zoneless.fill_stamped {t : Template} (ht : t.Zoneless) (r : Record)
    (stamp : Timestamp) (m : Moment) (zone zone' : ZoneText) :
    t.fill (({ r with created := stamp } : Record).field m zone) = t.fill (r.field m zone') := by
  refine fill_congr fun s hs c hc ↦ r.field_stamped stamp m zone zone' ?_ ?_
  · rintro rfl
    exact (ht s hs).1 hc
  · rintro rfl
    exact (ht s hs).2 hc

namespace Layout

/-- A record is rendered if the second that the layout would show is in the calendar's range. -/
theorem renders_of_shown {l : Layout} {r : Record}
    (h : Representable (r.created.shownSecond l.utc)) : l.Renders r := by
  intro _ hutc
  rw [hutc] at h
  exact h

/-- **Two renderings that show the same second are equal**, whatever the time modes, the zone texts
and the offsets, if their template shows neither form of the zone. -/
theorem format_eq_of_shown {t : Template} (ht : t.Zoneless) (r : Record)
    (stamp stamp' : Timestamp) {utc utc' : Bool} (zone zone' : ZoneText)
    (hsecond : stamp.shownSecond utc = stamp'.shownSecond utc') (hnano : stamp.nano = stamp'.nano)
    (hrange : Representable (stamp.shownSecond utc)) :
    ∃ b, (Layout.mk t utc zone).format (some { r with created := stamp }) = .ok b ∧
      (Layout.mk t utc' zone').format (some { r with created := stamp' }) = .ok b := by
  have hmoment : Record.moment { r with created := stamp } utc =
      Record.moment { r with created := stamp' } utc' := by
    rw [Record.moment_eq, Record.moment_eq, hsecond, hnano]
  refine ⟨t.fill (r.field (Record.moment { r with created := stamp } utc) zone), ?_, ?_⟩
  · rw [format_some, if_pos (renders_of_shown hrange), ht.fill_stamped r stamp _ zone zone]
  · rw [hsecond] at hrange
    rw [format_some, if_pos (renders_of_shown hrange), ht.fill_stamped r stamp' _ zone' zone,
      hmoment]

/-- **What the time mode changes.**  Let a template show neither form of the zone.  In universal
time every record is rendered, and equally for every offset of its stamp.  In local time, a record
whose wall clock is in the calendar's range is rendered as it is in universal time when its stamp is
moved by its offset.  So the two time modes agree on stamps without an offset.  The zone texts of
the layouts do not matter. -/
theorem format_moved {t : Template} (ht : t.Zoneless) (r : Record) (zone zone' : ZoneText) :
    let universal : Layout := ⟨t, true, zone⟩
    let wall : Layout := ⟨t, false, zone'⟩
    (∀ (o : Int) (ho : o.natAbs < 86400), ∃ b, universal.format (some r) = .ok b ∧
      universal.format (some { r with created := r.created.withOffset o ho }) = .ok b) ∧
    (∀ h : Representable (r.created.second + r.created.offset), ∃ b,
      wall.format (some r) = .ok b ∧
        universal.format (some { r with created := r.created.moved h }) = .ok b) ∧
    (r.created.offset = 0 →
      ∃ b, wall.format (some r) = .ok b ∧ universal.format (some r) = .ok b) := by
  intro universal wall
  refine ⟨fun o ho ↦ ?_, fun h ↦ ?_, fun hoffset ↦ ?_⟩
  · exact format_eq_of_shown ht r r.created (r.created.withOffset o ho) zone zone rfl rfl
      r.created.second_mem
  · exact format_eq_of_shown ht r r.created (r.created.moved h) zone' zone rfl rfl h
  · have hsecond : r.created.shownSecond false = r.created.shownSecond true := by
      show r.created.second + r.created.offset = r.created.second
      rw [hoffset, Int.add_zero]
    exact format_eq_of_shown ht r r.created r.created zone' zone hsecond rfl
      (hsecond ▸ r.created.second_mem)

/-- A leap second at the end of the year 0 on a clock one second ahead, which shows the year 1; the
same instant on a clock almost a day behind; and the start of 1970. -/
theorem format_moved_leap :
    let layout (utc : Bool) : Layout := ⟨Template.parse "%D %U", utc, ZoneText.universal⟩
    let ahead : Record := { created := { second := -62135596801, nano := 1500000000, offset := 1 } }
    let behind : Record :=
      { created := { second := -62135596801, nano := 1500000000, offset := -86399 } }
    let later : Record := { created := { second := -62135596800, nano := 1500000000, offset := 1 } }
    (layout true).format (some ahead) = .ok (Bytes.ofText "0000/12/31 23:59:59.500000") ∧
    (layout true).format (some behind) = (layout true).format (some ahead) ∧
    (layout false).format (some ahead) = .ok (Bytes.ofText "0001/01/01 00:00:00.500000") ∧
    (layout true).format (some later) = (layout false).format (some ahead) ∧
    (layout false).format (some {}) = (layout true).format (some {}) := by
  intro layout ahead behind later
  have hzoneless : (Template.parse "%D %U").Zoneless := by decide
  have huniversal : (layout true).format (some ahead) =
      .ok (Bytes.ofText "0000/12/31 23:59:59.500000") := by decide
  have hwall : (layout false).format (some ahead) =
      .ok (Bytes.ofText "0001/01/01 00:00:00.500000") := by decide
  obtain ⟨hoffset, hmoved, -⟩ :=
    format_moved hzoneless ahead ZoneText.universal ZoneText.universal
  obtain ⟨b, hb, hbehind⟩ := hoffset (-86399) (by decide)
  obtain ⟨b', hb', hlater⟩ := hmoved (by decide)
  obtain ⟨-, -, hepoch⟩ := format_moved hzoneless {} ZoneText.universal ZoneText.universal
  obtain ⟨b'', hb'', hepoch'⟩ := hepoch rfl
  exact ⟨huniversal, hbehind.trans hb.symm, hwall, hlater.trans hb'.symm, hb''.trans hepoch'.symm⟩

end Layout
end Logline
