import Logline.Proofs.Canonical
import Logline.Proofs.Concatenation
import Logline.Proofs.Text

/-!
# What can be seen of a template

Before it looks at a record, a layout asks its template two questions: whether it is empty, and
whether it shows the calendar or the clock.  The answers are read off the template without rendering
anything.  This file shows that they say what can be seen in the renderings, no more and no less.

For the time, two stamps are enough, at which every code for the calendar or the clock stands for
another text of the same length.  Two renderings that differ in such texts alone stay aligned, so
that differences cannot cancel out.  For emptiness, one record is enough, in which no text is empty;
the zone texts of a layout are not empty either, if the host does not give its zone an empty name.

## What is here

* `Template.fill_eq_fill_iff` — **texts of the same length do not cancel out**.
* `Timestamp.contrast` — the stamp that is compared with the start of 1970; what the two make of a
  code (`Record.field_epoch_contrast`) and of a template (`Template.fill_epoch_ne_contrast`).
* `Layout.showsTime_exact` — **what a template says about the time**.
* `Record.wordy` — the record without an empty text; `ZoneText.capture_ne_nil`, the zone texts.
* `Template.fill_eq_nil_iff` — what is filled into a canonical template shows.
* `Pattern.splitOn_percent` and `Template.isEmpty_compile_iff` — the patterns of empty templates.
* `Stage.isEmpty_exact` — **what an empty template is**.
-/

set_option autoImplicit false
namespace Logline

open Pattern (Item)

/-! ## Texts of the same length -/

theorem Pattern.Item.length_fill {text text' : Code → Bytes}
    (h : ∀ c, (text c).length = (text' c).length) (i : Item) :
    (i.fill text).length = (i.fill text').length := by
  cases i with
  | byte b => rfl
  | code c => exact h c

/-- **Texts of the same length do not cancel out**: a template that is filled in two ways looks the
same only if every code that occurs in it does. -/
theorem Template.fill_eq_fill_iff {t : Template} {text text' : Code → Bytes}
    (h : ∀ c, (text c).length = (text' c).length) :
    t.fill text = t.fill text' ↔ ∀ c, Item.code c ∈ t.items → text c = text' c := by
  rw [fill_eq_items, fill_eq_items]
  induction t.items with
  | nil => exact iff_of_true rfl fun c hc ↦ absurd hc List.not_mem_nil
  | cons i items ih =>
    have halign : i.fill text ++ items.flatMap (Item.fill text) =
          i.fill text' ++ items.flatMap (Item.fill text') ↔
        i.fill text = i.fill text' ∧
          items.flatMap (Item.fill text) = items.flatMap (Item.fill text') :=
      ⟨fun heq ↦ List.append_inj heq (i.length_fill h), fun ⟨hi, hrest⟩ ↦ by rw [hi, hrest]⟩
    rw [List.flatMap_cons, List.flatMap_cons, halign, ih]
    cases i with
    | byte b => simp only [Item.fill, true_and, List.mem_cons, reduceCtorEq, false_or]
    | code c =>
      simp only [Item.fill, List.mem_cons, Item.code.injEq, forall_eq_or_imp]

/-! ## The time -/

/-- A code for the calendar or the clock shows the moment and nothing else. -/
theorem Record.field_eq_of_showsTime (r r' : Record) (m : Moment) (zone zone' : ZoneText) {c : Code}
    (h : c.showsTime = true) : r.field m zone c = r'.field m zone' c := by
  cases c with
  | timeMicros | time | hour | minute | dateSlash | dateDash | dateShort => rfl
  | _ => cases h

/-- A stamp at which every field that is shown differs from what it is at the start of 1970. -/
def Timestamp.contrast : Timestamp :=
  { second := 349923661, nano := 1000, offset := 0, offset_lt := zero_offset_lt }

/-- Between the two stamps, every code for the calendar or the clock changes its text, but not the
length of it. -/
theorem Record.field_epoch_contrast (r : Record) (zone : ZoneText) {c : Code}
    (h : c.showsTime = true) :
    (r.field Timestamp.epoch.utc zone c).length = (r.field Timestamp.contrast.utc zone c).length ∧
      r.field Timestamp.epoch.utc zone c ≠ r.field Timestamp.contrast.utc zone c := by
  have hall : ∀ c ∈ Code.timed,
      (field {} Timestamp.epoch.utc ZoneText.universal c).length =
          (field {} Timestamp.contrast.utc ZoneText.universal c).length ∧
        field {} Timestamp.epoch.utc ZoneText.universal c ≠
          field {} Timestamp.contrast.utc ZoneText.universal c := by decide
  rw [r.field_eq_of_showsTime {} Timestamp.epoch.utc zone ZoneText.universal h,
    r.field_eq_of_showsTime {} Timestamp.contrast.utc zone ZoneText.universal h]
  exact hall c (Code.showsTime_iff.mp h)

/-- Between the two stamps, a template that shows the calendar or the clock changes. -/
theorem Template.fill_epoch_ne_contrast {t : Template} (h : t.showsTime = true) (r : Record)
    (zone : ZoneText) :
    t.fill (r.field Timestamp.epoch.utc zone) ≠ t.fill (r.field Timestamp.contrast.utc zone) := by
  have hlength : ∀ c, (r.field Timestamp.epoch.utc zone c).length =
      (r.field Timestamp.contrast.utc zone c).length := fun c ↦ by
    cases hc : c.showsTime with
    | true => exact (r.field_epoch_contrast zone hc).1
    | false => rw [r.field_eq_of_not_showsTime _ Timestamp.contrast.utc zone hc]
  obtain ⟨c, hmem, hc⟩ := showsTime_iff_items.mp h
  intro heq
  exact (r.field_epoch_contrast zone hc).2 ((fill_eq_fill_iff hlength).mp heq c hmem)

namespace Layout

/-- **What a template says about the time** is exact.  Take the template of any pattern.  If it says
that it shows neither calendar nor clock, then every layout with this template renders every record,
and renders it the same whatever its stamp is.  If it says that it does, then there are two stamps,
both of years of four digits, that make a difference in universal time, whatever else is in the
record and whatever the zone texts are. -/
theorem showsTime_exact (p : Bytes) :
    let layout (utc : Bool) (zone : ZoneText) : Layout := ⟨Template.compile p, utc, zone⟩
    ((Template.compile p).showsTime = false →
      ∀ (utc : Bool) (zone : ZoneText) (r : Record) (stamp : Timestamp), ∃ b,
        (layout utc zone).format (some r) = .ok b ∧
          (layout utc zone).format (some { r with created := stamp }) = .ok b) ∧
    ((Template.compile p).showsTime = true →
      ∃ stamp stamp' : Timestamp, (0 ≤ stamp.utc.year ∧ stamp.utc.year ≤ 9999) ∧
        (0 ≤ stamp'.utc.year ∧ stamp'.utc.year ≤ 9999) ∧
        ∀ (zone : ZoneText) (r : Record), ∃ b b',
          (layout true zone).format (some { r with created := stamp }) = .ok b ∧
            (layout true zone).format (some { r with created := stamp' }) = .ok b' ∧ b ≠ b') := by
  intro layout
  constructor
  · intro h utc zone r stamp
    have hrenders : ∀ r, (layout utc zone).Renders r := fun _ ht ↦
      absurd (h.symm.trans ht) Bool.false_ne_true
    refine ⟨_, format_eq_ok_iff.mpr ⟨hrenders r, rfl⟩, format_eq_ok_iff.mpr ⟨hrenders _, ?_⟩⟩
    exact Template.fill_eq_of_not_showsTime h r _ _ zone
  · intro h
    have hrenders : ∀ zone r, (layout true zone).Renders r := fun _ _ _ hutc ↦
      absurd hutc.symm Bool.false_ne_true
    refine ⟨.epoch, .contrast, by decide, by decide, fun zone r ↦
      ⟨_, _, format_eq_ok_iff.mpr ⟨hrenders zone _, rfl⟩,
        format_eq_ok_iff.mpr ⟨hrenders zone _, rfl⟩, ?_⟩⟩
    exact Template.fill_epoch_ne_contrast h r zone

/-- A template that shows the zone twice and letters of codes behind other codes: it renders a
record that has no wall clock like any other.  One with a single code for the time tells two stamps
apart. -/
theorem showsTime_exact_zone :
    let zone : ZoneText := ⟨Bytes.ofText "EET", Bytes.ofText "+02:00"⟩
    let quiet := Template.compile (Bytes.ofText "%Z%%zT%tD%QY %M")
    let timed := Template.compile (Bytes.ofText "%QY%Z%m%M")
    (quiet.showsTime = false ∧
      (Layout.mk quiet false zone).format (some { message := "x" }) =
        (Layout.mk quiet false zone).format (some { message := "x", created := outlier.created })) ∧
    timed.showsTime = true ∧ ∃ stamp stamp', ∀ r : Record,
      (Layout.mk timed true zone).format (some { r with created := stamp }) ≠
        (Layout.mk timed true zone).format (some { r with created := stamp' }) := by
  intro zone quiet timed
  have hquiet : quiet.showsTime = false := by decide
  have htimed : timed.showsTime = true := by decide
  obtain ⟨b, hb, hb'⟩ := (showsTime_exact _).1 hquiet false zone { message := "x" } outlier.created
  obtain ⟨stamp, stamp', -, -, hdiffer⟩ := (showsTime_exact _).2 htimed
  refine ⟨⟨hquiet, hb.trans hb'.symm⟩, htimed, stamp, stamp', fun r heq ↦ ?_⟩
  obtain ⟨b, b', hb, hb', hne⟩ := hdiffer zone r
  exact hne (Except.ok.inj (hb.symm.trans (heq.trans hb')))

end Layout

/-! ## Nothing at all -/

theorem Digits.number_ne_nil (n width : Nat) : number n width ≠ [] := by
  rw [number, maxPlaces, fill]
  split
  · exact List.cons_ne_nil _ _
  · exact List.append_ne_nil_of_right_ne_nil _ (List.cons_ne_nil _ _)

theorem Bytes.ofText_ne_nil {s : String} (h : s ≠ "") : ofText s ≠ [] := by
  intro hnil
  have hempty : toText? (ofText s) = toText? (ofText "") := congrArg toText? hnil
  rw [toText?_ofText, toText?_ofText] at hempty
  exact h (Option.some.inj hempty)

/-- A record in which no text is empty. -/
def Record.wordy : Record := { component := "x", source := "x", message := "x" }

/-- In such a record every code stands for some text. -/
theorem Record.field_wordy_ne_nil (m : Moment) {zone : ZoneText}
    (hzone : zone.short ≠ [] ∧ zone.long ≠ []) (c : Code) : wordy.field m zone c ≠ [] := by
  cases c with
  | zoneLong => exact hzone.2
  | zoneShort => exact hzone.1
  | hour | minute | levelNum | line => exact Digits.number_ne_nil _ _
  | level | component | source | shortSource | message => exact Bytes.ofText_ne_nil (by decide)
  | _ => exact List.cons_ne_nil _ _

namespace ZoneText

/-- Neither zone text is empty, if the zone does not have an empty name. -/
theorem ofOffset_ne_nil (offset : Int) {name : Option String} (h : name ≠ some "") (utc : Bool) :
    (ofOffset offset name utc).short ≠ [] ∧ (ofOffset offset name utc).long ≠ [] := by
  cases utc with
  | true => exact ⟨Bytes.ofText_ne_nil (by decide), Bytes.ofText_ne_nil (by decide)⟩
  | false =>
    have hlong : (if offset = 0 then Bytes.ofText "Z" else Offset.spaced offset) ≠ [] := by
      split
      · exact Bytes.ofText_ne_nil (by decide)
      · exact List.cons_ne_nil _ _
    cases name with
    | none => exact ⟨List.cons_ne_nil _ _, hlong⟩
    | some s => exact ⟨Bytes.ofText_ne_nil fun hs ↦ h (congrArg some hs), hlong⟩

/-- So are those of a host. -/
theorem capture_ne_nil {host : HostZone} (h : host.abbreviation ≠ some "") (utc : Bool) :
    (capture host utc).short ≠ [] ∧ (capture host utc).long ≠ [] := by
  refine ofOffset_ne_nil host.offset ?_ utc
  cases hname : host.abbreviation with
  | none =>
    show (if host.offset = 0 then some "UTC" else none) ≠ some ""
    split <;> decide
  | some s => exact fun hs ↦ h (hname.trans hs)

end ZoneText

/-- What is filled into a segment that has a code or something to copy shows. -/
theorem Segment.fill_ne_nil {s : Segment} (hs : s.code = none → s.tail ≠ []) {text : Code → Bytes}
    (htext : ∀ c, text c ≠ []) : s.fill text ≠ [] := by
  intro h
  obtain ⟨hcode, htail⟩ := List.append_eq_nil_iff.mp h
  cases hc : s.code with
  | none => exact hs hc htail
  | some c =>
    rw [hc] at hcode
    exact htext c hcode

/-- What is filled into a canonical template shows, unless it is empty. -/
theorem Template.fill_eq_nil_iff {t : Template} (ht : t.Canonical) {text : Code → Bytes}
    (htext : ∀ c, text c ≠ []) : t.fill text = [] ↔ t.isEmpty = true := by
  refine ⟨fun h ↦ ?_, fun h ↦ fill_eq_nil_of_isEmpty h text⟩
  obtain ⟨hhead, hsegments⟩ := List.append_eq_nil_iff.mp h
  rw [List.flatMap_eq_nil_iff] at hsegments
  have hnone : t.segments = [] := List.eq_nil_iff_forall_not_mem.mpr fun s hs ↦
    Segment.fill_ne_nil (ht.2 s hs).2 htext (hsegments s hs)
  exact isEmpty_iff.mpr ⟨hhead, hnone⟩

/-! ## The patterns of empty templates -/

/-- The pieces of a pattern, by the library's way to cut a list. -/
theorem Pattern.splitOn_percent (p : Bytes) :
    p.splitOn percent = (pieces p).1 :: (pieces p).2 := by
  induction p with
  | nil => rfl
  | cons b p ih =>
    rw [List.splitOn_cons_eq_if_modifyHead, ih]
    by_cases h : b = percent
    · rw [if_pos (beq_iff_eq.mpr h), h, pieces_cons_percent]
    · rw [if_neg (mt beq_iff_eq.mp h), pieces_cons_of_ne h]
      rfl

theorem Pattern.fst_pieces_eq_nil_iff {p : Bytes} :
    (pieces p).1 = [] ↔ p = [] ∨ p.head? = some percent := by
  cases p with
  | nil => exact iff_of_true rfl (.inl rfl)
  | cons b p =>
    by_cases h : b = percent
    · subst h
      exact iff_of_true (congrArg Prod.fst (pieces_cons_percent p)) (.inr rfl)
    · rw [pieces_cons_of_ne h]
      refine iff_of_false (List.cons_ne_nil _ _) ?_
      rintro (⟨⟨⟩⟩ | hhead)
      exact h (Option.some.inj hhead)

/-- A pattern has an empty template if it starts with a percent sign, unless there is nothing in it,
and if every piece between percent signs is dropped. -/
theorem Template.isEmpty_compile_iff {p : Bytes} :
    (compile p).isEmpty = true ↔ p = [] ∨ p.head? = some percent ∧
      ∀ piece ∈ (p.splitOn percent).tail, piece = [] ∨ ∃ b, piece = [b] ∧ Code.ofByte? b = none := by
  simp only [isEmpty_iff, compile, List.filterMap_eq_nil_iff, Segment.ofPiece?_eq_none_iff,
    Pattern.fst_pieces_eq_nil_iff, Pattern.splitOn_percent, List.tail_cons]
  constructor
  · rintro ⟨hhead, hlater⟩
    exact hhead.imp_right (⟨·, hlater⟩)
  · rintro (rfl | ⟨hhead, hlater⟩)
    · exact ⟨.inl rfl, List.forall_mem_nil _⟩
    · exact ⟨.inr hhead, hlater⟩

namespace Stage

/-- The zone of the host when the time mode was last decided on is one that the host has had. -/
theorem captured_mem (host : HostZone) (xs : List Step) :
    captured host xs ∈ host :: xs.filterMap Step.host? := by
  have hstart : beforeLast Step.utc? xs <+: xs :=
    (List.dropLast_prefix _).trans (List.rdropWhile_prefix _ xs)
  exact List.cons_subset_cons host (hstart.sublist.filterMap Step.host?).subset
    List.getLastD_mem_cons

/-- **What an empty template is.**  Take any history on a host that never gives its zone an empty
name, and set any pattern after it.  Its template says that it is empty exactly if every record that
can be rendered is rendered to nothing.  And that is so exactly for the empty pattern, and for those
that start with a percent sign and have nothing between their percent signs and behind the last one
but single bytes that are no codes. -/
theorem isEmpty_exact (o : Layout.Origin) (host : HostZone) (xs : List Step)
    (hnames : ∀ h ∈ host :: xs.filterMap Step.host?, h.abbreviation ≠ some "") (p : Bytes) :
    let l := ((ofOrigin host o).after (xs ++ [.ofBytes p])).layout
    ((Template.compile p).isEmpty = true ↔ ∀ r b, l.format (some r) = .ok b → b = []) ∧
    ((Template.compile p).isEmpty = true ↔ p = [] ∨ p.head? = some percent ∧
      ∀ piece ∈ (p.splitOn percent).tail, piece = [] ∨
        ∃ b, piece = [b] ∧ Code.ofByte? b = none) := by
  intro l
  refine ⟨?_, Template.isEmpty_compile_iff⟩
  let s := (ofOrigin host o).after xs
  have hl : l = s.layout.setBytes p := by
    rw [← layout_step_ofBytes, ← after_concat]
  have hzone : s.layout.zone.short ≠ [] ∧ s.layout.zone.long ≠ [] :=
    (remembers_after o host xs).zone ▸
      ZoneText.capture_ne_nil (hnames _ (captured_mem host xs)) s.layout.utc
  rw [hl]
  constructor
  · intro hempty r b hb
    obtain ⟨-, rfl⟩ := Layout.format_eq_ok_iff.mp hb
    exact Template.fill_eq_nil_of_isEmpty hempty _
  · intro hnothing
    have hrenders : (s.layout.setBytes p).Renders .wordy := fun _ _ ↦
      (by decide : Representable (0 + 0))
    have hfill := hnothing .wordy _ (Layout.format_eq_ok_iff.mpr ⟨hrenders, rfl⟩)
    exact (Template.fill_eq_nil_iff (Template.canonical_compile p)
      (Record.field_wordy_ne_nil _ hzone)).mp hfill

/-- A pattern of runs of percent signs and bytes that are no codes, one of them the first byte of no
character, on a host whose zone has a name at first and then none; and the same pattern with a zone
text at its end. -/
theorem isEmpty_exact_runs :
    let host : HostZone := ⟨32400, some "JST", by decide⟩
    let xs : List Step := [.setUtc true, .moveHost ⟨-18000, none, by decide⟩, .setUtc false]
    let p : Bytes := 37 :: 37 :: 0xFF :: Bytes.ofText "%Q%%%"
    (∀ r b, ((ofOrigin host .default).after (xs ++ [.ofBytes p])).layout.format (some r) = .ok b →
      b = []) ∧
    ¬ ∀ r b, ((ofOrigin host .default).after (xs ++ [.ofBytes (p ++ Bytes.ofText "z")])).layout.format
      (some r) = .ok b → b = [] := by
  intro host xs p
  have hnames : ∀ h ∈ host :: xs.filterMap Step.host?, h.abbreviation ≠ some "" := by decide
  have hempty : (Template.compile p).isEmpty = true := by decide
  have hzone : (Template.compile (p ++ Bytes.ofText "z")).isEmpty = false := by decide
  refine ⟨(isEmpty_exact .default host xs hnames p).1.mp hempty, fun h ↦ ?_⟩
  have hcontra := (isEmpty_exact .default host xs hnames _).1.mpr h
  exact absurd (hzone.symm.trans hcontra) Bool.false_ne_true

end Stage
end Logline
