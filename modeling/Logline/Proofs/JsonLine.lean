import Logline.Proofs.Json
import Logline.Proofs.Timestamp

/-!
# Records as objects

The pattern of the preset `json` makes an object out of a record, with a member for every field.  It
copies the texts of a record as they are, and this goes well as long as they can stand between
quotation marks without an escape: then the line is the compact form of a document, and so it reads
back as that document.

## What is here

* `Json.Plain` — the texts that need no escape; `Json.exists_plain` finds one behind the bytes of a
  form.
* `Record.document` and `Record.ofDocument?` — the object of a record, and the record of an object.
* `Layout.exists_created` — the time of a record, as a plain text.
* `Layout.format_json` — what a layout makes of the pattern.
* `Stage.read?_jsonLine` — **a line of the preset is one document, and the record is read from it**.
-/

set_option autoImplicit false
namespace Logline

/-! ## Texts without escapes -/

namespace Json

/-- The texts that stand for themselves between quotation marks. -/
def Plain (s : String) : Prop := ∀ c ∈ s.toList, c ≠ '"' ∧ c ≠ '\\' ∧ 0x20 ≤ c.toNat

instance (s : String) : Decidable (Plain s) := List.decidableBAll _ s.toList

theorem quotedChar_eq {c : Char} (hquote : c ≠ '"') (hslash : c ≠ '\\') (h : 0x20 ≤ c.toNat) :
    quotedChar c = [c] := by
  unfold quotedChar
  split
  case h_8 => exact if_neg (Nat.not_lt.mpr h)
  all_goals contradiction

theorem Plain.quoted_eq {s : String} (h : Plain s) : quoted s = '"' :: s.toList ++ ['"'] := by
  have hchars : s.toList.flatMap quotedChar = s.toList := by
    rw [List.flatMap_congr fun c hc ↦ quotedChar_eq (h c hc).1 (h c hc).2.1 (h c hc).2.2]
    exact List.flatMap_singleton' s.toList
  rw [quoted, hchars]

/-- The bytes that are the code of a character without an escape. -/
def PlainByte (x : UInt8) : Prop :=
  0x20 ≤ x ∧ x < 0x80 ∧ x ≠ '"'.toUInt8 ∧ x ≠ '\\'.toUInt8

instance (x : UInt8) : Decidable (PlainByte x) := by
  unfold PlainByte
  infer_instance

theorem plainByte_of_isDigit {x : UInt8} (h0 : 48 ≤ x) (h1 : x ≤ 57) : PlainByte x := by
  refine ⟨UInt8.le_trans (by decide) h0, UInt8.lt_of_le_of_lt h1 (by decide), ?_, ?_⟩
  · rintro rfl
    exact absurd h0 (by decide)
  · rintro rfl
    exact absurd h1 (by decide)

/-- Bytes of a plain form are the encoding of a plain text. -/
theorem exists_plain {form : List Char} {b : Bytes} (h : Bytes.Fits form b)
    (hform : form.all (fun c ↦ decide (PlainByte c.toUInt8)) = true) :
    ∃ s, Bytes.ofText s = b ∧ Plain s := by
  have hplain : ∀ x ∈ b, PlainByte x := h.forall_mem (fun _ ↦ plainByte_of_isDigit)
    fun c hc ↦ of_decide_eq_true (List.all_eq_true.mp hform c hc)
  refine ⟨String.ofList (b.map Char.ofUInt8), ?_, ?_⟩
  · rw [Bytes.ofText, String.toList_ofList]
    exact Bytes.ofChars_map_ofUInt8 fun x hx ↦ UInt8.lt_iff_toNat_lt.mp (hplain x hx).2.1
  · intro c hc
    rw [String.toList_ofList] at hc
    obtain ⟨x, hx, rfl⟩ := List.mem_map.mp hc
    obtain ⟨hlow, -, hquote, hslash⟩ := hplain x hx
    refine ⟨fun hc ↦ hquote ?_, fun hc ↦ hslash ?_, UInt8.le_iff_toNat_le.mp hlow⟩
    · rw [← hc, Bytes.toUInt8_ofUInt8]
    · rw [← hc, Bytes.toUInt8_ofUInt8]

end Json

/-! ## Records and objects -/

namespace Record

/-- The object of a record, with a text for its time. -/
def document (r : Record) (created : String) : Json :=
  .object
    [("Level", .number (.integer r.level.ordinal)), ("Created", .string created),
      ("Prefix", .string r.component), ("Source", .string r.source),
      ("Line", .number (.integer r.line.toNat)), ("Message", .string r.message)]

/-- The record of an object, with a stamp for its time. -/
def ofDocument? (stamp : Timestamp) : Json → Option Record
  | .object
      [("Level", .number (.integer (.ofNat level))), ("Created", .string _),
        ("Prefix", .string component), ("Source", .string source),
        ("Line", .number (.integer (.ofNat line))), ("Message", .string message)] =>
    if line < UInt32.size then
      (Level.ofOrdinal? level).map fun l ↦
        { level := l, created := stamp, component, source, line := UInt32.ofNat line, message }
    else none
  | _ => none

theorem ofDocument?_document (r : Record) (created : String) :
    ofDocument? r.created (r.document created) = some r := by
  show (if r.line.toNat < UInt32.size then
    (Level.ofOrdinal? r.level.ordinal).map fun l ↦ Record.mk l r.created r.component r.source
      (UInt32.ofNat r.line.toNat) r.message else none) = some r
  rw [if_pos r.line.toNat_lt, Level.ofOrdinal?_eq_some_iff.mpr rfl, UInt32.ofNat_toNat]
  rfl

theorem exact_document (r : Record) (created : String) :
    Json.Exact Json.maxDepth (r.document created) := by
  have hline := r.line.toNat_lt
  have hlevel : r.level.ordinal ≤ 7 := by cases r.level <;> decide
  refine .object fun m hm ↦ ?_
  simp only [List.mem_cons, List.not_mem_nil, or_false] at hm
  rcases hm with rfl | rfl | rfl | rfl | rfl | rfl
  · exact .integer (by omega) (by omega)
  · exact .string
  · exact .string
  · exact .string
  · exact .integer (by omega) (by omega)
  · exact .string

/-- The characters of the object of a record whose texts need no escape. -/
theorem chars_document {r : Record} {created : String} (hcreated : Json.Plain created)
    (hcomponent : Json.Plain r.component) (hsource : Json.Plain r.source)
    (hmessage : Json.Plain r.message) :
    Json.chars (r.document created) =
      "\x7b\"Level\":".toList ++ Nat.toDigits 10 r.level.ordinal ++
      ",\"Created\":\"".toList ++ created.toList ++
      "\",\"Prefix\":\"".toList ++ r.component.toList ++
      "\",\"Source\":\"".toList ++ r.source.toList ++
      "\",\"Line\":".toList ++ Nat.toDigits 10 r.line.toNat ++
      ",\"Message\":\"".toList ++ r.message.toList ++ "\"\x7d".toList := by
  have hinteger : ∀ n : Nat, Json.integerText n = Nat.toDigits 10 n := fun n ↦
    if_neg (by omega)
  have hkeys : ∀ k ∈ ["Level", "Created", "Prefix", "Source", "Line", "Message"],
      Json.quoted k = '"' :: k.toList ++ ['"'] := by
    decide
  simp only [List.forall_mem_cons] at hkeys
  simp only [document, Json.chars, Json.memberChars, Json.numberText, hinteger, hkeys,
    hcreated.quoted_eq, hcomponent.quoted_eq, hsource.quoted_eq, hmessage.quoted_eq]
  simp

/-- The encoding of the object, piece by piece. -/
theorem ofText_document {r : Record} {created : String} (hcreated : Json.Plain created)
    (hcomponent : Json.Plain r.component) (hsource : Json.Plain r.source)
    (hmessage : Json.Plain r.message) :
    Bytes.ofText (Json.compact (r.document created)) =
      Bytes.ofText "\x7b\"Level\":" ++ Digits.number r.level.ordinal 0 ++
      Bytes.ofText ",\"Created\":\"" ++ Bytes.ofText created ++
      Bytes.ofText "\",\"Prefix\":\"" ++ Bytes.ofText r.component ++
      Bytes.ofText "\",\"Source\":\"" ++ Bytes.ofText r.source ++
      Bytes.ofText "\",\"Line\":" ++ Digits.number r.line.toNat 0 ++
      Bytes.ofText ",\"Message\":\"" ++ Bytes.ofText r.message ++ Bytes.ofText "\"\x7d" := by
  have hlevel : r.level.ordinal < 10 ^ Digits.maxPlaces := by cases r.level <;> decide
  have hline : r.line.toNat < 10 ^ Digits.maxPlaces := Nat.lt_trans r.line.toNat_lt (by decide)
  have hchars := chars_document hcreated hcomponent hsource hmessage
  simp only [Bytes.ofText, Json.compact, String.toList_ofList, hchars, Bytes.ofChars_append,
    Digits.number_zero_eq hlevel, Digits.number_zero_eq hline]

end Record

/-! ## Lines of the preset -/

namespace Layout

/-- The time of a record is a plain text. -/
theorem exists_created {l : Layout} {host : HostZone} {r : Record}
    (hzone : l.zone = ZoneText.capture host l.utc) (h0 : 0 ≤ (r.moment l.utc).year)
    (h1 : (r.moment l.utc).year ≤ 9999) :
    ∃ created, Bytes.ofText created = (r.moment l.utc).text ++ l.zone.long ∧
      Json.Plain created := by
  have htext := Moment.fits_text (r.valid_moment l.utc) h0 h1
  rw [hzone]
  obtain hlong | hlong | hlong := ZoneText.fits_long host l.utc
  · exact Json.exists_plain (htext.append hlong) (by decide)
  · exact Json.exists_plain (htext.append hlong) (by decide)
  · exact Json.exists_plain (htext.append hlong) (by decide)

/-- What a layout makes of the pattern of the preset. -/
theorem format_json {l : Layout} {r : Record} (h0 : 0 ≤ (r.moment l.utc).year)
    (h1 : (r.moment l.utc).year ≤ 9999) (hcomponent : Json.Plain r.component)
    (hsource : Json.Plain r.source) (hmessage : Json.Plain r.message) {created : String}
    (htext : Bytes.ofText created = (r.moment l.utc).text ++ l.zone.long)
    (hcreated : Json.Plain created) :
    (l.setPattern Preset.json).format (some r) =
      .ok (Bytes.ofText (Json.compact (r.document created))) := by
  have htemplate : Template.parse Preset.json =
      { head := Bytes.ofText "\x7b\"Level\":"
        segments := [⟨some .levelNum, Bytes.ofText ",\"Created\":\""⟩,
          ⟨some .dateDash, Bytes.ofText "T"⟩, ⟨some .timeMicros, []⟩,
          ⟨some .zoneLong, Bytes.ofText "\",\"Prefix\":\""⟩,
          ⟨some .component, Bytes.ofText "\",\"Source\":\""⟩,
          ⟨some .source, Bytes.ofText "\",\"Line\":"⟩,
          ⟨some .line, Bytes.ofText ",\"Message\":\""⟩,
          ⟨some .message, Bytes.ofText "\"\x7d"⟩] } := by
    decide
  rw [format_of_year h0 h1, htemplate,
    Record.ofText_document hcreated hcomponent hsource hmessage, htext]
  simp only [Template.fill, Segment.fill, List.flatMap_cons, List.flatMap_nil, Option.map_some,
    Option.getD_some, Record.field, Moment.text, List.append_nil, List.append_assoc]
  rfl

end Layout

namespace Stage

/-- **A line of the preset is one document, and the record is read from it.**  After any history,
when the texts of a record need no escape and its year has four digits, the line is text, and as a
document it is an object with the six fields in order.  Its time is what the pattern for date, time
of day and offset gives; the rest of the record is recovered. -/
theorem read?_jsonLine (o : Layout.Origin) (host : HostZone) (xs : List Step) (r : Record)
    (hcomponent : Json.Plain r.component) (hsource : Json.Plain r.source)
    (hmessage : Json.Plain r.message)
    (h0 : 0 ≤ (r.moment ((ofOrigin host o).after xs).layout.utc).year)
    (h1 : (r.moment ((ofOrigin host o).after xs).layout.utc).year ≤ 9999) :
    let l := ((ofOrigin host o).after xs).layout
    ∃ line text created, (l.setPattern Preset.json).format (some r) = .ok line ∧
      Bytes.toText? line = some text ∧ Json.read? text = some (r.document created) ∧
      (l.setPattern "%YT%U%Z").format (some r) = .ok (Bytes.ofText created) ∧
      (Json.read? text).bind (Record.ofDocument? r.created) = some r := by
  intro l
  obtain ⟨created, htext, hcreated⟩ :=
    Layout.exists_created (remembers_after o host xs).zone h0 h1
  have hread := Json.read?_compact (r.exact_document created)
  refine ⟨_, _, created,
    Layout.format_json h0 h1 hcomponent hsource hmessage htext hcreated,
    Bytes.toText?_ofText _, hread, ?_, ?_⟩
  · rw [htext]
    exact Layout.format_stamp h0 h1
  · rw [hread]
    exact r.ofDocument?_document created

/-- A record with texts in several scripts, on the largest line, on a clock ahead of universal
time. -/
theorem read?_jsonLine_scripts :
    let host : HostZone := ⟨32400, some "JST", by decide⟩
    let r : Record :=
      { level := .critical, component := "サービス", source := "src/größe.rs", line := 4294967295
        message := "naïve ≠ наивный, 100%M" }
    ∃ line text created,
      (((ofOrigin host .default).after []).layout.setPattern Preset.json).format (some r) =
        .ok line ∧
      Bytes.toText? line = some text ∧ Json.read? text = some (r.document created) :=
  have ⟨line, text, created, hline, htext, hread, _⟩ :=
    read?_jsonLine .default ⟨32400, some "JST", by decide⟩ []
      { level := .critical, component := "サービス", source := "src/größe.rs", line := 4294967295
        message := "naïve ≠ наивный, 100%M" } (by decide) (by decide) (by decide) (by decide)
      (by decide)
  ⟨line, text, created, hline, htext, hread⟩

end Stage
end Logline
