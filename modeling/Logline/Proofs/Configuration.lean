import Logline.Config.Location
import Logline.Proofs.Tables
import Mathlib.Data.Option.Basic

/-!
# Reading a configuration

A configuration has four fields in two sections.  A document need not give any of them, and may hold
anything else.  This file says what it comes to, in terms of the document alone: which value it
gives for a field, if any, and which values are in the way.  A document says each thing once at
most, so there is one value for a field or none, wherever in its section it stands.

## What is here

* `Config.Field` — the four fields: where each stands (`Field.title`, `Field.name`, `Field.place`),
  its default, and which values it takes.
* `Field.Given` — the value that a document gives for a field; `Field.Barred` — its section is a
  value without parts; `Config.Broken` — what no configuration can be read from.
* `Config.ofToml?_eq_some_iff` — **reading, field by field**.
* `Config.ofToml?_eq_none_iff` and `Config.get_of_ofToml?` — **when a document is refused**, and
  what its fields are otherwise.
* `Config.ofToml?_eq_of_given_iff` — **nothing but the fields counts**.
-/

set_option autoImplicit false
namespace Logline
namespace Config

/-! ## Fields -/

/-- The fields of a configuration. -/
inductive Field where
  | level
  | pattern
  | preset
  | utc
  deriving DecidableEq

namespace Field

theorem forall_iff {P : Field → Prop} :
    (∀ f, P f) ↔ P level ∧ P pattern ∧ P preset ∧ P utc := by
  constructor
  · intro h
    exact ⟨h level, h pattern, h preset, h utc⟩
  · rintro ⟨hlevel, hpattern, hpreset, hutc⟩ f
    cases f <;> assumption

/-- The section that a field belongs to. -/
def title : Field → String
  | level => "general"
  | pattern | preset | utc => "layout"

/-- The key of a field in a section that is a table. -/
def name : Field → String
  | level => "level"
  | pattern => "pattern"
  | preset => "preset"
  | utc => "utc"

/-- The index of a field in a section that is an array. -/
def place : Field → Nat
  | level | pattern => 0
  | preset => 1
  | utc => 2

/-- The value of a field that is not given. -/
def default : Field → Toml.Value
  | level => .string "info"
  | pattern => .string ""
  | preset => .string "default"
  | utc => .boolean false

/-- Whether a value is of the type of a field. -/
def takes : Field → Toml.Value → Bool
  | utc, .boolean _ => true
  | utc, _ => false
  | _, .string _ => true
  | _, _ => false

/-- The value of a field in a configuration. -/
def get (c : Config) : Field → Toml.Value
  | level => .string c.level
  | pattern => .string c.pattern
  | preset => .string c.preset
  | utc => .boolean c.utc

/-- Every default is of the type of its field. -/
theorem takes_default (f : Field) : f.takes f.default = true := by
  cases f <;> rfl

theorem takes_iff_of_ne {f : Field} (hf : f ≠ utc) {v : Toml.Value} :
    f.takes v = true ↔ ∃ s, v = .string s := by
  cases f <;> cases v <;> simp [takes] at hf ⊢

theorem takes_utc_iff {v : Toml.Value} : utc.takes v = true ↔ ∃ b, v = .boolean b := by
  cases v <;> simp [takes]

/-- Values of the right types make a configuration. -/
theorem exists_get {value : Field → Toml.Value} (h : ∀ f : Field, f.takes (value f) = true) :
    ∃ c : Config, ∀ f : Field, f.get c = value f := by
  obtain ⟨lev, hlevel⟩ := (takes_iff_of_ne (by decide)).mp (h level)
  obtain ⟨pat, hpattern⟩ := (takes_iff_of_ne (by decide)).mp (h pattern)
  obtain ⟨pre, hpreset⟩ := (takes_iff_of_ne (by decide)).mp (h preset)
  obtain ⟨u, hutc⟩ := takes_utc_iff.mp (h utc)
  exact ⟨⟨lev, pat, pre, u⟩, forall_iff.mpr ⟨hlevel.symm, hpattern.symm, hpreset.symm, hutc.symm⟩⟩

end Field

theorem eq_of_get {c c' : Config} (h : ∀ f : Field, f.get c = f.get c') : c = c' := by
  obtain ⟨hlevel, hpattern, hpreset, hutc⟩ := Field.forall_iff.mp h
  cases c
  cases c'
  cases hlevel
  cases hpattern
  cases hpreset
  cases hutc
  rfl

/-! ## Fields of a document -/

/-- A value without parts.  A point in time is none: it counts as a table of parts that no field is
among (`isSection`). -/
inductive Bare : Toml.Value → Prop
  | string (s : String) : Bare (.string s)
  | integer (n : Int) : Bare (.integer n)
  | float (written : String) : Bare (.float written)
  | boolean (b : Bool) : Bare (.boolean b)

theorem bare_iff {v : Toml.Value} : Bare v ↔ isSection v = false := by
  constructor
  · rintro (_ | _ | _ | _) <;> rfl
  · intro h
    cases v with
    | string s => exact .string s
    | integer n => exact .integer n
    | float written => exact .float written
    | boolean b => exact .boolean b
    | _ => cases h

namespace Field

/-- A document gives a value for a field: under the name of the field in a section that is a table,
or at its place in one that is an array. -/
inductive Given (f : Field) (d : List (String × Toml.Value)) (v : Toml.Value) : Prop
  | entry {entries : List (String × Toml.Value)} (hsection : (f.title, .table entries) ∈ d)
      (hentry : (f.name, v) ∈ entries)
  | item {items : List Toml.Value} (hsection : (f.title, .array items) ∈ d)
      (hitem : items[f.place]? = some v)

/-- The section of a field is a value without parts. -/
def Barred (f : Field) (d : List (String × Toml.Value)) : Prop := ∃ v, (f.title, v) ∈ d ∧ Bare v

/-- What is found for a field in a document. -/
def found? (f : Field) (d : List (String × Toml.Value)) : Option Toml.Value :=
  (d.lookup f.title).bind (field? f.name f.place)

/-- The value that a field gets from what is found. -/
def settled? (f : Field) : Option Toml.Value → Option Toml.Value
  | none => some f.default
  | some v => if f.takes v then some v else none

end Field

/-- What no configuration can be read from: a section is a value without parts, or the value for a
field is of the wrong type. -/
inductive Broken (d : List (String × Toml.Value)) : Prop
  | barred {f : Field} (h : f.Barred d)
  | mistyped {f : Field} {v : Toml.Value} (hgiven : f.Given d v) (htakes : f.takes v = false)

section Documents

variable {d d' : List (String × Toml.Value)} {f : Field} {v : Toml.Value}

theorem Field.given_iff (h : (Toml.Value.table d).Keyed) : f.Given d v ↔ f.found? d = some v := by
  obtain ⟨hkeys, hvalues⟩ := Toml.Value.keyed_table_iff.mp h
  have hlookup : ∀ {w : Toml.Value}, d.lookup f.title = some w ↔ (f.title, w) ∈ d :=
    lookup_eq_some_iff_mem_of_nodup hkeys
  have hentry : ∀ {entries : List (String × Toml.Value)}, (f.title, .table entries) ∈ d →
      (entries.lookup f.name = some v ↔ (f.name, v) ∈ entries) := fun hsection ↦
    lookup_eq_some_iff_mem_of_nodup (Toml.Value.keyed_table_iff.mp (hvalues _ hsection)).1
  rw [found?, Option.bind_eq_some_iff]
  constructor
  · rintro (@⟨entries, hsection, hmem⟩ | @⟨items, hsection, hitem⟩)
    · exact ⟨.table entries, hlookup.mpr hsection, (hentry hsection).mpr hmem⟩
    · exact ⟨.array items, hlookup.mpr hsection, hitem⟩
  · rintro ⟨w, hw, hfield⟩
    have hsection := hlookup.mp hw
    cases w with
    | table entries => exact .entry hsection ((hentry hsection).mp hfield)
    | array items => exact .item hsection hfield
    | _ => cases hfield

theorem Field.barred_iff (h : (Toml.Value.table d).Keyed) :
    f.Barred d ↔ (d.lookup f.title).all isSection = false := by
  obtain ⟨hkeys, -⟩ := Toml.Value.keyed_table_iff.mp h
  rw [Option.all_eq_false, Barred]
  simp only [lookup_eq_some_iff_mem_of_nodup hkeys, bare_iff]

/-! ## Reading, field by field -/

theorem text?_eq_some_iff {f : Field} (hf : f ≠ .utc) {s t : String} {x : Option Toml.Value}
    (hdefault : f.default = .string s) : text? s x = some t ↔ f.settled? x = some (.string t) := by
  cases x with
  | none => simp [text?, Field.settled?, hdefault]
  | some v => cases f <;> cases v <;> simp_all [text?, Field.settled?, Field.takes]

theorem bool?_eq_some_iff {b : Bool} {x : Option Toml.Value} :
    bool? false x = some b ↔ Field.utc.settled? x = some (.boolean b) := by
  cases x with
  | none => simp [bool?, Field.settled?, Field.default]
  | some v => cases v <;> simp [bool?, Field.settled?, Field.takes]

/-- **Reading, field by field.**  The sections must be such that they can have fields, and then each
field is settled on its own. -/
theorem ofToml?_eq_some_iff {c : Config} :
    ofToml? d = some c ↔ (∀ f : Field, (d.lookup f.title).all isSection = true) ∧
      ∀ f : Field, f.settled? (f.found? d) = some (f.get c) := by
  -- the reader's own order: first the two sections, then one field after the other
  have hread : ofToml? d = some c ↔
      ((d.lookup "general").all isSection && (d.lookup "layout").all isSection) = true ∧
      text? "info" (Field.level.found? d) = some c.level ∧
      text? "" (Field.pattern.found? d) = some c.pattern ∧
      text? "default" (Field.preset.found? d) = some c.preset ∧
      bool? false (Field.utc.found? d) = some c.utc := by
    rw [ofToml?]
    simp only [Option.bind_eq_bind, Option.bind_eq_some_iff, Option.guard_eq_some',
      Option.some.injEq]
    constructor
    · rintro ⟨-, hsections, _, hlevel, _, hpattern, _, hpreset, _, hutc, rfl⟩
      exact ⟨hsections, hlevel, hpattern, hpreset, hutc⟩
    · rintro ⟨hsections, hlevel, hpattern, hpreset, hutc⟩
      exact ⟨(), hsections, _, hlevel, _, hpattern, _, hpreset, _, hutc, rfl⟩
  rw [hread, Bool.and_eq_true, text?_eq_some_iff (f := .level) nofun rfl,
    text?_eq_some_iff (f := .pattern) nofun rfl, text?_eq_some_iff (f := .preset) nofun rfl,
    bool?_eq_some_iff, Field.forall_iff, Field.forall_iff]
  -- three of the fields share a section, which is asked about once for each of them
  constructor
  · rintro ⟨⟨hgeneral, hlayout⟩, hfields⟩
    exact ⟨⟨hgeneral, hlayout, hlayout, hlayout⟩, hfields⟩
  · rintro ⟨⟨hgeneral, hlayout, -, -⟩, hfields⟩
    exact ⟨⟨hgeneral, hlayout⟩, hfields⟩

/-! ## What is refused, and what is read -/

theorem Field.settled?_eq_none_iff {x : Option Toml.Value} :
    f.settled? x = none ↔ ∃ v, x = some v ∧ f.takes v = false := by
  cases x with
  | none => simp [settled?]
  | some v => simp [settled?]

theorem Field.takes_of_settled? {x : Option Toml.Value} (h : f.settled? x = some v) :
    f.takes v = true := by
  cases x with
  | none =>
    cases h
    exact f.takes_default
  | some w =>
    obtain ⟨htakes, hw⟩ := Option.ite_none_right_eq_some.mp h
    cases hw
    exact htakes

/-- **When a document is refused.** -/
theorem ofToml?_eq_none_iff (h : (Toml.Value.table d).Keyed) : ofToml? d = none ↔ Broken d := by
  constructor
  · -- where nothing is broken every field is settled, and what they are settled to makes a
    -- configuration
    intro hnone
    by_contra hbroken
    have hsections : ∀ f : Field, (d.lookup f.title).all isSection = true := by
      intro f
      by_contra hfalse
      exact hbroken (.barred ((Field.barred_iff h).mpr (Bool.eq_false_iff.mpr hfalse)))
    have hsettled : ∀ f : Field, ∃ v, f.settled? (f.found? d) = some v := by
      intro f
      rw [← Option.ne_none_iff_exists']
      intro hf
      obtain ⟨v, hv, htakes⟩ := Field.settled?_eq_none_iff.mp hf
      exact hbroken (.mistyped ((Field.given_iff h).mpr hv) htakes)
    choose value hvalue using hsettled
    obtain ⟨c, hc⟩ := Field.exists_get fun f ↦ Field.takes_of_settled? (hvalue f)
    have hsome : ofToml? d = some c :=
      ofToml?_eq_some_iff.mpr ⟨hsections, fun f ↦ (hc f).symm ▸ hvalue f⟩
    exact Option.some_ne_none c (hsome.symm.trans hnone)
  · intro hbroken
    by_contra hsome
    obtain ⟨c, hc⟩ := Option.ne_none_iff_exists'.mp hsome
    obtain ⟨hsections, hfields⟩ := ofToml?_eq_some_iff.mp hc
    cases hbroken with
    | @barred f hbarred =>
      exact Bool.eq_false_iff.mp ((Field.barred_iff h).mp hbarred) (hsections f)
    | @mistyped f v hgiven htakes =>
      have hnone := Field.settled?_eq_none_iff.mpr ⟨v, (Field.given_iff h).mp hgiven, htakes⟩
      exact Option.some_ne_none _ ((hfields f).symm.trans hnone)

/-- **What is read**: for each field the value that the document gives, or its default. -/
theorem get_of_ofToml? (h : (Toml.Value.table d).Keyed) {c : Config} (hc : ofToml? d = some c)
    (f : Field) :
    (∀ v, f.Given d v → f.get c = v) ∧ ((∀ v, ¬ f.Given d v) → f.get c = f.default) := by
  have hsettled := (ofToml?_eq_some_iff.mp hc).2 f
  constructor
  · intro v hgiven
    rw [(Field.given_iff h).mp hgiven] at hsettled
    exact (Option.some.inj (Option.ite_none_right_eq_some.mp hsettled).2).symm
  · intro hnot
    have hnone : f.found? d = none :=
      Option.eq_none_iff_forall_ne_some.mpr fun v hv ↦ hnot v ((Field.given_iff h).mpr hv)
    rw [hnone] at hsettled
    exact (Option.some.inj hsettled).symm

/-- Documents that have the same to say on sections and fields are read alike. -/
theorem ofToml?_congr
    (h : ∀ f : Field, (d.lookup f.title).all isSection = (d'.lookup f.title).all isSection ∧
      f.settled? (f.found? d) = f.settled? (f.found? d')) : ofToml? d = ofToml? d' := by
  refine Option.ext fun c ↦ ?_
  rw [ofToml?_eq_some_iff, ofToml?_eq_some_iff]
  exact and_congr (forall_congr' fun f ↦ by rw [(h f).1]) (forall_congr' fun f ↦ by rw [(h f).2])

/-- **Nothing but the fields counts**, and that a section is not in the way. -/
theorem ofToml?_eq_of_given_iff (h : (Toml.Value.table d).Keyed) (h' : (Toml.Value.table d').Keyed)
    (hbarred : ∀ f : Field, f.Barred d ↔ f.Barred d')
    (hgiven : ∀ (f : Field) (v : Toml.Value), f.Given d v ↔ f.Given d' v) :
    ofToml? d = ofToml? d' := by
  refine ofToml?_congr fun f ↦ ⟨?_, ?_⟩
  · have hfalse := hbarred f
    rw [Field.barred_iff h, Field.barred_iff h'] at hfalse
    exact Bool.eq_iff_iff.mpr (by simpa using not_congr hfalse)
  · have hfound : f.found? d = f.found? d' := by
      refine Option.ext fun v ↦ ?_
      rw [← Field.given_iff h, ← Field.given_iff h', hgiven f v]
    rw [hfound]

end Documents

end Config
end Logline
