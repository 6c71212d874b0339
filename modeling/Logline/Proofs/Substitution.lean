import Logline.Proofs.Timestamp

/-!
# What codes stand for

Filling in a template puts a text in the place of each of its codes.  This file says code by code
which bytes that text is made of: digits of the calendar and the clock at the second that is shown,
digits and letters of the other fields of the record, the zone texts of the layout, and three
control characters.

Calendar and clock are those of the Gregorian calendar: a date that exists and a time of day, which
add up to the second.  Each field takes two digits, and a year takes four.  A year of more digits,
or before year 0, leaves bytes that may be no digits: what is written is its century and the year in
it, as words of 32 bits, in two bytes each.

## What is here

* `Bytes.decimal` — a number in decimal, with zeros in front of it; `Bytes.year` — a year.
* `Moment.At` — the calendar and the clock at a second.
* `Record.Substitutes` — **the bytes that each code stands for**.
* `Code.table` — the letters that are codes behind a percent sign.
* `Stage.format_after` — **after any history, a record is rendered as the last pattern reads**.
-/

set_option autoImplicit false
namespace Logline

/-! ## Digits -/

namespace Bytes

/-- A number in decimal, with zeros in front of it up to a width. -/
def decimal (width n : Nat) : Bytes := ofChars ((Nat.toDigits 10 n).leftpad width '0')

/-- Two bytes for an integer as a word of 32 bits: the tens, counted on from `'0'` and around after
255, and the ones. -/
def wordPair (n : Int) : Bytes :=
  let word := (n % 4294967296).toNat
  [UInt8.ofNat (48 + word / 10), UInt8.ofNat (48 + word % 10)]

/-- A year: its century and the year in it, both cut toward zero. -/
def year (y : Int) : Bytes := wordPair (y.tdiv 100) ++ wordPair (y.tmod 100)

end Bytes

theorem Digits.number_eq_decimal {n width : Nat} (hn : n < 10 ^ maxPlaces)
    (hw : width ≤ maxPlaces) : number n width = Bytes.decimal width n := by
  have hascii : ∀ c ∈ (Nat.toDigits 10 n).leftpad width '0', c.toNat < 128 := by
    intro c hc
    rw [List.leftpad, List.mem_append] at hc
    obtain hc | hc := hc
    · obtain rfl := List.eq_of_mem_replicate hc
      decide
    · exact toNat_lt_of_isDigit (Nat.isDigit_of_mem_toDigits (by decide) (by decide) hc)
  rw [number_eq width hn, Nat.min_eq_left hw, Bytes.decimal, Bytes.ofChars_eq_map hascii,
    List.leftpad]

/-- A number without a width has one digit at least, whatever the width says. -/
theorem Digits.number_zero_eq_decimal {n : Nat} (hn : n < 10 ^ maxPlaces) :
    number n 0 = Bytes.decimal 1 n := by
  rw [number_zero_eq hn, Bytes.decimal, List.leftpad,
    Nat.sub_eq_zero_of_le (Nat.length_toDigits_pos)]
  rfl

theorem Digits.pair_eq_decimal {n : Nat} (h : n < 100) : pair n = Bytes.decimal 2 n := by
  have hplaces : n < 10 ^ maxPlaces := Nat.lt_of_lt_of_le h (by decide)
  rw [← number_two_eq_pair h, number_eq_decimal hplaces (by decide)]

/-- **The bytes of a year** from 0 to 9999 are its four digits. -/
theorem Bytes.year_eq_decimal {y : Int} (h0 : 0 ≤ y) (h1 : y ≤ 9999) :
    year y = decimal 4 y.toNat := by
  have hn : y.toNat < 10000 := by omega
  have hdigits : Digits.number y.toNat 4 = [Digits.ones (y.toNat / 10 / 10 / 10),
      Digits.ones (y.toNat / 10 / 10), Digits.ones (y.toNat / 10), Digits.ones y.toNat] := by
    change Digits.fill 20 y.toNat 4 = _
    rw [Digits.fill, if_neg (by omega), Digits.fill, if_neg (by omega), Digits.fill,
      if_neg (by omega), Digits.fill, if_pos (by omega)]
    rfl
  have hplaces : y.toNat < 10 ^ Digits.maxPlaces := Nat.lt_of_lt_of_le hn (by decide)
  rw [← Digits.number_eq_decimal hplaces (by decide), hdigits, year, wordPair, wordPair,
    Int.tdiv_eq_ediv_of_nonneg h0, Int.tmod_eq_emod_of_nonneg h0]
  have hcentury : (y / 100 % 4294967296).toNat = y.toNat / 100 := by omega
  have hrest : (y % 100 % 4294967296).toNat = y.toNat % 100 := by omega
  simp only [hcentury, hrest, Digits.ones, List.cons_append, List.nil_append]
  refine congrArg₂ _ ?_ (congrArg₂ _ ?_ (congrArg₂ _ ?_ (congrArg₂ _ ?_ rfl))) <;>
    refine congrArg UInt8.ofNat ?_ <;> omega

/-! ## Calendar and clock -/

/-- The fields of the Gregorian calendar and of a clock at a second since 1970, and the microseconds
when so many nanoseconds of it have passed. -/
structure Moment.At (m : Moment) (second : Int) (nano : Nat) : Prop where
  month : 1 ≤ m.month ∧ m.month ≤ 12
  day : 1 ≤ m.day ∧ m.day ≤ Date.monthLength m.year m.month
  time : m.hour < 24 ∧ m.minute < 60 ∧ m.second < 60
  second_eq : 86400 * Date.toDay ⟨m.year, m.month, m.day⟩ +
    3600 * m.hour + 60 * m.minute + m.second = second
  micro_eq : m.micro = nano % 1000000000 / 1000

theorem Moment.at_ofSecond (second : Int) (nano : Nat) :
    (ofSecond second nano).At second nano := by
  obtain ⟨⟨hmonth1, hmonth12, hday1, hday⟩, hhour, hminute, hsecond, -⟩ :=
    valid_ofSecond second nano
  exact
    { month := ⟨hmonth1, hmonth12⟩
      day := ⟨hday1, hday⟩
      time := ⟨hhour, hminute, hsecond⟩
      second_eq := toSecond_ofSecond second nano
      micro_eq := rfl }

/-! ## Code by code -/

/-- The letters and the digit of each level. -/
def Level.table : List (Level × String × Nat) :=
  [(.finest, "FNST", 0), (.fine, "FINE", 1), (.debug, "DEBG", 2), (.trace, "TRAC", 3),
   (.info, "INFO", 4), (.warning, "WARN", 5), (.error, "EROR", 6), (.critical, "CRIT", 7)]

/-- The letters that are codes behind a percent sign. -/
def Code.table : List (Char × Code) :=
  [('U', .timeMicros), ('T', .time), ('h', .hour), ('m', .minute), ('Z', .zoneLong),
   ('z', .zoneShort), ('D', .dateSlash), ('Y', .dateDash), ('d', .dateShort), ('L', .level),
   ('l', .levelNum), ('P', .component), ('S', .source), ('s', .shortSource), ('N', .line),
   ('M', .message), ('t', .tab), ('r', .carriageReturn), ('n', .newline), ('R', .newline)]

theorem Code.ofByte?_eq_some_iff_table {b : UInt8} {c : Code} :
    ofByte? b = some c ↔ ∃ letter, (letter, c) ∈ table ∧ b = letter.toUInt8 := by
  rw [ofByte?_eq_some_iff]
  cases c <;> simp [table, byte, letter, newlineAlias]

section

variable (r : Record) (m : Moment) (zone : ZoneText)

open Bytes in
/-- **The bytes that each code stands for**: for a record, for calendar and clock, and for the texts
of a zone. -/
structure Record.Substitutes (text : Code → Bytes) : Prop where
  /-- A year of at most four digits is written in four. -/
  fourDigits : 0 ≤ m.year → m.year ≤ 9999 → year m.year = decimal 4 m.year.toNat
  time : text .time =
    decimal 2 m.hour ++ ofText ":" ++ decimal 2 m.minute ++ ofText ":" ++ decimal 2 m.second
  timeMicros : text .timeMicros = text .time ++ ofText "." ++ decimal 6 m.micro
  hour : text .hour = decimal 2 m.hour
  minute : text .minute = decimal 2 m.minute
  dateDash : text .dateDash =
    year m.year ++ ofText "-" ++ decimal 2 m.month ++ ofText "-" ++ decimal 2 m.day
  dateSlash : text .dateSlash =
    year m.year ++ ofText "/" ++ decimal 2 m.month ++ ofText "/" ++ decimal 2 m.day
  dateShort : text .dateShort =
    decimal 2 m.day ++ ofText "/" ++ decimal 2 m.month ++ ofText "/" ++ wordPair (m.year.tmod 100)
  zoneLong : text .zoneLong = zone.long
  zoneShort : text .zoneShort = zone.short
  level : ∃ label ordinal, (r.level, label, ordinal) ∈ Level.table ∧
    text .level = ofText label ∧ text .levelNum = decimal 1 ordinal
  component : text .component = ofText r.component
  source : text .source = ofText r.source
  /-- What stands behind the last slash, or all of it. -/
  shortSource : ∀ dir name : String, '/' ∉ name.toList →
    r.source = dir ++ "/" ++ name ∨ r.source = name → text .shortSource = ofText name
  line : text .line = decimal 1 r.line.toNat
  message : text .message = ofText r.message
  tab : text .tab = [9]
  carriageReturn : text .carriageReturn = [13]
  newline : text .newline = [10]

variable {m}

theorem Record.substitutes_field (h : m.Valid) : r.Substitutes m zone (r.field m zone) := by
  obtain ⟨hmonth, hday, hhour, hminute, hsecond⟩ := h.lt_hundred
  have htime : r.field m zone .time = Bytes.decimal 2 m.hour ++ Bytes.ofText ":" ++
      Bytes.decimal 2 m.minute ++ Bytes.ofText ":" ++ Bytes.decimal 2 m.second := by
    rw [← Digits.pair_eq_decimal hhour, ← Digits.pair_eq_decimal hminute,
      ← Digits.pair_eq_decimal hsecond]
    rfl
  have hdate : ∀ sep : UInt8, m.calendar sep =
      Bytes.year m.year ++ [sep] ++ Bytes.decimal 2 m.month ++ [sep] ++ Bytes.decimal 2 m.day := by
    intro sep
    rw [← Digits.pair_eq_decimal hmonth, ← Digits.pair_eq_decimal hday]
    rfl
  have hmicro : m.micro < 10 ^ Digits.maxPlaces :=
    Nat.lt_of_lt_of_le h.2.2.2.2 (by decide)
  have hline : r.line.toNat < 10 ^ Digits.maxPlaces :=
    Nat.lt_of_lt_of_le r.line.toNat_lt (by decide)
  exact
    { fourDigits := Bytes.year_eq_decimal
      time := htime
      timeMicros := by
        rw [← Digits.number_eq_decimal hmicro (by decide), List.append_assoc]
        rfl
      hour := (Digits.number_two_eq_pair hhour).trans (Digits.pair_eq_decimal hhour)
      minute := (Digits.number_two_eq_pair hminute).trans (Digits.pair_eq_decimal hminute)
      dateDash := hdate _
      dateSlash := hdate _
      dateShort := by
        rw [← Digits.pair_eq_decimal hday, ← Digits.pair_eq_decimal hmonth]
        rfl
      zoneLong := rfl
      zoneShort := rfl
      level := by
        have hmem : (r.level, r.level.label, r.level.ordinal) ∈ Level.table := by
          cases r.level <;> decide
        have hordinal : Digits.number r.level.ordinal 0 = Bytes.decimal 1 r.level.ordinal := by
          cases r.level <;> decide
        exact ⟨r.level.label, r.level.ordinal, hmem, rfl, hordinal⟩
      component := rfl
      source := rfl
      shortSource := fun dir name hname hsource ↦
        congrArg Bytes.ofText (Record.shortSource_eq hname hsource)
      line := Digits.number_zero_eq_decimal hline
      message := rfl
      tab := rfl
      carriageReturn := rfl
      newline := rfl }

end

namespace Stage

/-- **A record is rendered as the pattern reads.**  After any history, the bytes of a record are the
last pattern that was set, read from left to right with the fields of the record put in place of the
codes: its calendar and clock in the time mode of the layout, the zone texts of the layout, and the
source from behind its last separator.  Any byte string can be that pattern. -/
theorem format_after (o : Layout.Origin) (host : HostZone) (xs : List Step) (r : Record) (b : Bytes)
    (h : ((ofOrigin host o).after xs).layout.format (some r) = .ok b) :
    let l := ((ofOrigin host o).after xs).layout
    let m := r.moment l.utc
    let text := r.field m l.zone
    m.At (r.created.second + if l.utc then 0 else r.created.offset) r.created.nano ∧
      r.Substitutes m l.zone text ∧
      (∀ byte c, Code.ofByte? byte = some c ↔
        ∃ letter, (letter, c) ∈ Code.table ∧ byte = letter.toUInt8) ∧
      b = Pattern.expand text false (latest Step.pattern? (Bytes.ofText o.text) xs) ∧
      ∀ p : Bytes, ∃ x : Step, x.pattern? = some p := by
  intro l m text
  have hat : m.At (r.created.second + if l.utc then 0 else r.created.offset) r.created.nano := by
    simp only [m, Record.moment]
    cases l.utc with
    | true =>
      rw [if_pos rfl, if_pos rfl, Int.add_zero]
      exact Moment.at_ofSecond _ _
    | false => exact Moment.at_ofSecond _ _
  have hexpand : b = Pattern.expand text false (latest Step.pattern? (Bytes.ofText o.text) xs) := by
    have hb := h
    rw [Layout.format_some, if_pos (Layout.renders_of_format_eq_ok h), Except.ok.injEq] at hb
    rw [← hb, (remembers_after o host xs).template, Template.fill_compile]
  exact ⟨hat, r.substitutes_field l.zone (r.valid_moment l.utc),
    fun _ _ ↦ Code.ofByte?_eq_some_iff_table, hexpand, fun p ↦ ⟨_, Step.pattern?_ofBytes p⟩⟩

/-- A pattern that is not text, with a run of percent signs, an unknown code and a percent sign at
its end, around a message that holds a code; and a date and a time on a wall clock that is a day
ahead, inside a leap second. -/
theorem format_after_bytes :
    ((ofOrigin ⟨0, none, by decide⟩ .default).after
      [.ofBytes [0xFF, 37, 37, 77, 37, 81, 37], .setUtc true]).layout.format
        (some { message := "%L" }) = .ok [0xFF, 37, 76] ∧
    [0xFF, 37, 76] = Pattern.expand
      (Record.field { message := "%L" } (Record.moment { message := "%L" } true) ZoneText.universal)
      false [0xFF, 37, 37, 77, 37, 81, 37] ∧
    let r : Record :=
      { level := .critical
        created := { second := 951868799, nano := 1500000000, offset := 7200 }
        line := 42 }
    let l := ((ofOrigin ⟨7200, some "EET", by decide⟩ .default).after
      [.setPattern "%D %U%t%Z %l %L:%N"]).layout
    l.format (some r) =
        .ok (Bytes.ofText "2000/03/01 01:59:59.500000\t+02:00 7 CRIT:42") ∧
      (r.moment l.utc).At 951875999 1500000000 ∧
      r.field (r.moment l.utc) l.zone .dateSlash =
        Bytes.decimal 4 2000 ++ Bytes.ofText "/" ++ Bytes.decimal 2 3 ++ Bytes.ofText "/" ++
          Bytes.decimal 2 1 := by
  have hbytes : ((ofOrigin ⟨0, none, by decide⟩ .default).after
      [.ofBytes [0xFF, 37, 37, 77, 37, 81, 37], .setUtc true]).layout.format
        (some { message := "%L" }) = .ok [0xFF, 37, 76] := by decide
  obtain ⟨-, -, -, hexpand, -⟩ := format_after _ _ _ _ _ hbytes
  refine ⟨hbytes, hexpand, ?_⟩
  intro r l
  have hdate : l.format (some r) =
      .ok (Bytes.ofText "2000/03/01 01:59:59.500000\t+02:00 7 CRIT:42") := by decide +kernel
  obtain ⟨hat, htexts, -⟩ := format_after _ _ _ _ _ hdate
  exact ⟨hdate, hat, htexts.dateSlash.trans (by decide +kernel)⟩

end Stage
end Logline
