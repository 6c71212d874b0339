import Logline.Proofs.Configuration
import Logline.Proofs.Text
import Mathlib.Logic.Relation

/-!
# Documents that grow

Nothing but its fields counts for a configuration.  So a document can grow wherever no field is read
from: by sections, by entries of a section or by items behind the fields of one that is given as an
array, and anywhere inside such a part.  It can also grow inside the value of a field, which then is
an array or a table, and wrong whatever is in it.  What has grown can be taken away again, and to
exchange a part is to take it away and to put another one in; so all changes of this kind are steps
of growth, back and forth.

That a step is not seen rests on one property of growth: it is local.  Every part of a value is as
it was, or is the new one, or lies on the way to it and has grown itself.

## What is here

* `Toml.Part` and `Toml.Value.Grows` — one more part at a place of a value;
  `Toml.Value.Grows.part?_cases` says that **growth is local**.
* `Config.Known` — the places that fields are read from; `Config.Unseen` — growth at any other.
* `Config.Unseen.settled?_eq` and `Config.ofToml?_eq_of_unseen` — **one step that is not seen**, and
  any number of them, back and forth.
* `Config.Alike` — two loadings that come to the same, however a document is refused.
* `Config.loadFrom_document` — **what is loaded from a document**.
-/

set_option autoImplicit false
namespace Logline

/-! ## Values that grow -/

namespace Toml

/-- A part of a value: an entry of a table by its key, or an item of an array by its index. -/
inductive Part where
  | entry (key : String)
  | item (index : Nat)
  deriving DecidableEq

/-- A part of a value, if it is there. -/
def Value.part? : Part → Value → Option Value
  | .entry key, .table entries => entries.lookup key
  | .item index, .array items => items[index]?
  | _, _ => none

/-- A value and the same value with one more part at a place: with an entry anywhere in a table, or
with an item behind all others of an array.  A place is a path of parts, the last of which is the
one that is new. -/
inductive Value.Grows : List Part → Value → Value → Prop
  | entry {front back : List (String × Value)} {key : String} {v : Value} :
      Grows [.entry key] (.table (front ++ back)) (.table (front ++ (key, v) :: back))
  | item {items : List Value} {v : Value} :
      Grows [.item items.length] (.array items) (.array (items ++ [v]))
  | inEntry {place : List Part} {front back : List (String × Value)} {key : String} {v w : Value}
      (h : Grows place v w) :
      Grows (.entry key :: place) (.table (front ++ (key, v) :: back))
        (.table (front ++ (key, w) :: back))
  | inItem {place : List Part} {front back : List Value} {v w : Value} (h : Grows place v w) :
      Grows (.item front.length :: place) (.array (front ++ v :: back))
        (.array (front ++ w :: back))

theorem lookup_append_cons_of_ne {α : Type} {front back : List (String × α)} {key name : String}
    (h : name ≠ key) (a : α) :
    (front ++ (key, a) :: back).lookup name = (front ++ back).lookup name := by
  rw [List.lookup_append, List.lookup_append, List.lookup_cons, beq_false_of_ne h]

theorem lookup_append_cons_cases {α : Type} (front back : List (String × α)) (key : String)
    (a b : α) :
    (front ++ (key, a) :: back).lookup key = (front ++ (key, b) :: back).lookup key ∨
      (front ++ (key, a) :: back).lookup key = some a ∧
        (front ++ (key, b) :: back).lookup key = some b := by
  rw [List.lookup_append, List.lookup_append]
  cases front.lookup key <;> simp

theorem getElem?_append_cons_of_ne {α : Type} {front back : List α} {i : Nat}
    (h : i ≠ front.length) (a b : α) : (front ++ a :: back)[i]? = (front ++ b :: back)[i]? := by
  rw [List.getElem?_append, List.getElem?_append]
  split
  · rfl
  · obtain ⟨k, hk⟩ := Nat.exists_eq_succ_of_ne_zero (show i - front.length ≠ 0 by omega)
    rw [hk, List.getElem?_cons_succ, List.getElem?_cons_succ]

/-- **Growth is local.**  A part that is not the new one is as it was, or it is on the way to the
new one and has itself grown there. -/
theorem Value.Grows.part?_cases {place : List Part} {v w : Value} (h : Grows place v w) {p : Part}
    (hp : place ≠ [p]) :
    v.part? p = w.part? p ∨ ∃ place' x y, place = p :: place' ∧ v.part? p = some x ∧
      w.part? p = some y ∧ Grows place' x y := by
  cases h with
  | @entry front back key v =>
    cases p with
    | entry name =>
      have hne : name ≠ key := fun heq ↦ hp (heq ▸ rfl)
      exact .inl (lookup_append_cons_of_ne hne v).symm
    | item => exact .inl rfl
  | @item items v =>
    cases p with
    | entry => exact .inl rfl
    | item i =>
      have hne : i ≠ items.length := fun heq ↦ hp (heq ▸ rfl)
      refine .inl ?_
      show items[i]? = (items ++ [v])[i]?
      rw [List.getElem?_append]
      split
      · rfl
      · have hbehind : [v].length ≤ i - items.length := by
          rw [List.length_singleton]
          omega
        rw [List.getElem?_eq_none (by omega), List.getElem?_eq_none hbehind]
  | @inEntry place front back key v w h =>
    cases p with
    | entry name =>
      by_cases hne : name = key
      · -- an entry further ahead under the same key hides the one that has grown
        subst hne
        obtain heq | ⟨hv, hw⟩ := lookup_append_cons_cases front back name v w
        · exact .inl heq
        · exact .inr ⟨place, v, w, rfl, hv, hw, h⟩
      · exact .inl ((lookup_append_cons_of_ne hne v).trans (lookup_append_cons_of_ne hne w).symm)
    | item => exact .inl rfl
  | @inItem place front back v w h =>
    cases p with
    | entry => exact .inl rfl
    | item i =>
      by_cases hne : i = front.length
      · subst hne
        exact .inr ⟨place, v, w, rfl, by simp [part?], by simp [part?], h⟩
      · exact .inl (getElem?_append_cons_of_ne hne v w)

end Toml

namespace Config

/-! ## Places that are not looked at -/

/-- The places that a configuration is read from: the sections and the fields, each in its two
forms. -/
def Known (place : List Toml.Part) : Prop :=
  ∃ f : Field, place = [.entry f.title] ∨ place = [.entry f.title, .entry f.name] ∨
    place = [.entry f.title, .item f.place]

/-- A document and the same document with one more part at a place that is not known. -/
def Unseen (d d' : List (String × Toml.Value)) : Prop :=
  ∃ place, ¬ Known place ∧ Toml.Value.Grows place (.table d) (.table d')

theorem isSection_of_grows {place : List Toml.Part} {v w : Toml.Value} (h : v.Grows place w) :
    isSection v = true ∧ isSection w = true := by
  cases h <;> exact ⟨rfl, rfl⟩

/-- What can grow is no value of a field. -/
theorem Field.takes_of_grows (f : Field) {place : List Toml.Part} {v w : Toml.Value}
    (h : Toml.Value.Grows place v w) : f.takes v = false ∧ f.takes w = false := by
  cases h <;> cases f <;> exact ⟨rfl, rfl⟩

theorem field?_eq (name : String) (place : Nat) (v : Toml.Value) :
    field? name place v = (v.part? (.entry name)).or (v.part? (.item place)) := by
  cases v <;> simp [field?, Toml.Value.part?]

/-- A section that grows at a place that is not known. -/
theorem Field.settled?_field? {f : Field} {place : List Toml.Part} {v w : Toml.Value}
    (hknown : ¬ Known (.entry f.title :: place)) (h : Toml.Value.Grows place v w) :
    f.settled? (field? f.name f.place v) = f.settled? (field? f.name f.place w) := by
  have hentry : place ≠ [.entry f.name] := fun heq ↦ hknown ⟨f, .inr (.inl (heq ▸ rfl))⟩
  have hitem : place ≠ [.item f.place] := fun heq ↦ hknown ⟨f, .inr (.inr (heq ▸ rfl))⟩
  -- a part that has grown itself is an array or a table, before and after
  have hsettled : ∀ {place' : List Toml.Part} {x y : Toml.Value}, Toml.Value.Grows place' x y →
      f.settled? (some x) = f.settled? (some y) := by
    intro place' x y hgrows
    obtain ⟨hx, hy⟩ := f.takes_of_grows hgrows
    rw [Field.settled?_eq_none_iff.mpr ⟨x, rfl, hx⟩, Field.settled?_eq_none_iff.mpr ⟨y, rfl, hy⟩]
  rw [field?_eq, field?_eq]
  obtain heq | ⟨place', x, y, -, hx, hy, hgrows⟩ := h.part?_cases hentry
  · rw [heq]
    cases w.part? (.entry f.name) with
    | some z => rfl
    | none =>
      rw [Option.none_or, Option.none_or]
      obtain heq' | ⟨place', x, y, -, hx, hy, hgrows⟩ := h.part?_cases hitem
      · rw [heq']
      · rw [hx, hy]
        exact hsettled hgrows
  · rw [hx, hy, Option.some_or, Option.some_or]
    exact hsettled hgrows

section Documents

variable {d d' : List (String × Toml.Value)}

/-- **One change that is not seen**: no section gets in the way by it, and no field becomes another
one. -/
theorem Unseen.settled?_eq (h : Unseen d d') (f : Field) :
    (d.lookup f.title).all isSection = (d'.lookup f.title).all isSection ∧
      f.settled? (f.found? d) = f.settled? (f.found? d') := by
  obtain ⟨place, hknown, hgrows⟩ := h
  have hsection : place ≠ [.entry f.title] := fun heq ↦ hknown ⟨f, .inl heq⟩
  obtain heq | ⟨place', v, w, rfl, hv, hw, hgrows'⟩ := hgrows.part?_cases hsection
  · have hlookup : d.lookup f.title = d'.lookup f.title := heq
    rw [Field.found?, Field.found?, hlookup]
    exact ⟨rfl, rfl⟩
  · have hv' : d.lookup f.title = some v := hv
    have hw' : d'.lookup f.title = some w := hw
    obtain ⟨hsv, hsw⟩ := isSection_of_grows hgrows'
    rw [Field.found?, Field.found?, hv', hw', Option.all_some, Option.all_some, hsv, hsw]
    exact ⟨rfl, f.settled?_field? hknown hgrows'⟩

/-- **Any number of changes that are not seen**, back and forth, leave what is read as it is. -/
theorem ofToml?_eq_of_unseen (h : Relation.EqvGen Unseen d d') : ofToml? d = ofToml? d' := by
  induction h with
  | rel d d' h => exact ofToml?_congr h.settled?_eq
  | refl d => rfl
  | symm d d' _ ih => exact ih.symm
  | trans d₁ d₂ d₃ _ _ ih ih' => exact ih.trans ih'

/-! ## Loading -/

/-- The file at a path holds a document. -/
def DocumentAt (h : Host) (path : String) (d : List (String × Toml.Value)) : Prop :=
  ∃ content text, h.read (h.expand path) = .file content ∧ Bytes.toText? content = some text ∧
    Toml.read? text = some d

variable {h : Host} {path : String}

theorem DocumentAt.keyed (hd : DocumentAt h path d) : (Toml.Value.table d).Keyed := by
  obtain ⟨_, _, -, -, hread⟩ := hd
  exact Toml.keyed_of_read? hread

theorem DocumentAt.loadFrom_eq (hd : DocumentAt h path d) : ∃ wording,
    loadFrom h path = pure ((ofToml? d).elim (.error (.configParse wording)) .ok) := by
  obtain ⟨content, text, hfile, htext, hread⟩ := hd
  have hbytes : ofBytes h.wording content =
      (ofToml? d).elim (.error (.configParse (h.wording text))) .ok := by
    simp only [ofBytes, htext, hread, Option.bind_some]
    cases ofToml? d <;> rfl
  exact ⟨h.wording text, by rw [loadFrom, hfile, ← hbytes]⟩

/-- Two loadings that come to the same: they report the same and find the same configuration, or the
documents of both are refused.  How the reader words that is all they may differ in. -/
def Alike (a b : Reported (Except Error Config)) : Prop :=
  a = b ∨ ∃ wording wording',
    a = pure (.error (.configParse wording)) ∧ b = pure (.error (.configParse wording'))

/-- Documents that read as the same configuration, or as none, are loaded alike. -/
theorem DocumentAt.alike {h' : Host} {path' : String} (hd : DocumentAt h path d)
    (hd' : DocumentAt h' path' d') (heq : ofToml? d = ofToml? d') :
    Alike (loadFrom h' path') (loadFrom h path) := by
  obtain ⟨wording, hload⟩ := hd.loadFrom_eq
  obtain ⟨wording', hload'⟩ := hd'.loadFrom_eq
  rw [hload, hload', ← heq]
  cases ofToml? d with
  | some c => exact .inl rfl
  | none => exact .inr ⟨wording', wording, rfl, rfl⟩

/-- **What is loaded from a document**, any document that reads, on any host.  Loading fails exactly
if a section is a value without parts or a field is given with a value of another type.  Otherwise
every field is as the document gives it, or as its default says, whatever there is of its section
and of the other fields.  Neither has anything else in the document a part in it: not the parts that
are added, taken away or exchanged at places that no field is read from, and nothing at all as long
as the same is said on the fields. -/
theorem loadFrom_document (hd : DocumentAt h path d) :
    ((∃ wording, loadFrom h path = pure (.error (.configParse wording))) ↔ Broken d) ∧
    (¬ Broken d → ∃ c : Config, loadFrom h path = pure (.ok c) ∧ ∀ f : Field,
      (∀ v, f.Given d v → f.get c = v) ∧ ((∀ v, ¬ f.Given d v) → f.get c = f.default)) ∧
    ∀ {h' : Host} {path' : String} {d' : List (String × Toml.Value)}, DocumentAt h' path' d' →
      (Relation.EqvGen Unseen d d' → Alike (loadFrom h' path') (loadFrom h path)) ∧
      ((∀ f : Field, f.Barred d ↔ f.Barred d') →
        (∀ (f : Field) (v : Toml.Value), f.Given d v ↔ f.Given d' v) →
        Alike (loadFrom h' path') (loadFrom h path)) := by
  obtain ⟨wording, hload⟩ := hd.loadFrom_eq
  refine ⟨?_, fun hbroken ↦ ?_, fun hd' ↦ ⟨fun hunseen ↦ ?_, fun hbarred hgiven ↦ ?_⟩⟩
  · rw [hload, ← ofToml?_eq_none_iff hd.keyed]
    cases ofToml? d with
    | none => exact ⟨fun _ ↦ rfl, fun _ ↦ ⟨wording, rfl⟩⟩
    | some c =>
      refine ⟨fun ⟨wording', heq⟩ ↦ ?_, nofun⟩
      cases congrArg Reported.value heq
  · obtain ⟨c, hc⟩ := Option.ne_none_iff_exists'.mp (mt (ofToml?_eq_none_iff hd.keyed).mp hbroken)
    refine ⟨c, ?_, get_of_ofToml? hd.keyed hc⟩
    rw [hload, hc]
    rfl
  · exact hd.alike hd' (ofToml?_eq_of_unseen hunseen)
  · exact hd.alike hd' (ofToml?_eq_of_given_iff hd.keyed hd'.keyed hbarred hgiven)

/-- Four documents on a host where a file holds what its path says: the fields of a section as the
items of an array, the same with more parts around it and behind, the same fields as the entries of
a table, and one of them with a value of another type. -/
theorem loadFrom_document_forms :
    let h : Host := ⟨some "/root", none, fun path ↦ .file (Bytes.ofText path),
      fun _ ↦ "invalid type: integer, expected a string"⟩
    let items := "layout = ['%M', 'short', true]"
    let grown := "x = 1\nlayout = ['%M', 'short', true, 'x']\n[other]\nlevel = 7"
    let entries := "[layout]\nutc = true\npattern = '%M'\npreset = 'short'"
    let wrong := "layout = ['%M', 7]"
    loadFrom h items = pure (.ok { pattern := "%M", preset := "short", utc := true }) ∧
      Alike (loadFrom h grown) (loadFrom h items) ∧ Alike (loadFrom h entries) (loadFrom h items) ∧
      ∃ wording, loadFrom h wrong = pure (.error (.configParse wording)) := by
  intro h items grown entries wrong
  have hdoc : ∀ {text : String} {d : List (String × Toml.Value)}, h.expand text = text →
      Toml.read? text = some d → DocumentAt h text d := by
    intro text d hexpand hread
    exact ⟨Bytes.ofText text, text, congrArg h.read hexpand, Bytes.toText?_ofText text, hread⟩
  let fields : List Toml.Value := [.string "%M", .string "short", .boolean true]
  have hitems : DocumentAt h items [("layout", .array fields)] :=
    hdoc (by decide +kernel) (by decide +kernel)
  have hgrown : DocumentAt h grown [("x", .integer 1), ("layout", .array (fields ++ [.string "x"])),
      ("other", .table [("level", .integer 7)])] := hdoc (by decide +kernel) (by decide +kernel)
  have hentries : DocumentAt h entries [("layout", .table [("utc", .boolean true),
      ("pattern", .string "%M"), ("preset", .string "short")])] :=
    hdoc (by decide +kernel) (by decide +kernel)
  have hwrong : DocumentAt h wrong [("layout", .array [.string "%M", .integer 7])] :=
    hdoc (by decide +kernel) (by decide +kernel)
  obtain ⟨-, hfields, hsame⟩ := loadFrom_document hitems
  refine ⟨?_, (hsame hgrown).1 ?_, (hsame hentries).2 (fun f ↦ ?_) fun f v ↦ ?_,
    (loadFrom_document hwrong).1.mpr ?_⟩
  · obtain ⟨c, hc, hgiven⟩ := hfields (mt (ofToml?_eq_none_iff hitems.keyed).mpr (by decide))
    have hshown : ∀ {f : Field} {v : Toml.Value}, f.found? [("layout", .array fields)] = some v →
        f.get c = v := fun {f v} hv ↦ (hgiven f).1 v ((Field.given_iff hitems.keyed).mpr hv)
    have hlevel : Field.level.get c = .string "info" := (hgiven .level).2 fun v hv ↦ by
      cases (Field.given_iff hitems.keyed).mp hv
    have heq : c = { pattern := "%M", preset := "short", utc := true } :=
      eq_of_get (Field.forall_iff.mpr ⟨hlevel, hshown rfl, hshown rfl, hshown rfl⟩)
    rw [hc, heq]
  · have hunknown : ∀ place ∈ [[Toml.Part.entry "layout", .item 3], [.entry "x"],
        [.entry "other"]], ¬ Known place := by
      rintro place hplace ⟨f, hf⟩
      revert place
      cases f <;> decide
    exact .trans _ [("layout", .array (fields ++ [.string "x"]))] _
      (.rel _ _ ⟨_, hunknown _ (by decide), @Toml.Value.Grows.inEntry _ [] [] _ _ _
        (@Toml.Value.Grows.item fields _)⟩) <|
      .trans _ [("x", .integer 1), ("layout", .array (fields ++ [.string "x"]))] _
        (.rel _ _ ⟨_, hunknown _ (by decide), @Toml.Value.Grows.entry [] _ _ _⟩)
        (.rel _ _ ⟨_, hunknown _ (by decide), @Toml.Value.Grows.entry [_, _] [] _ _⟩)
  · rw [Field.barred_iff hitems.keyed, Field.barred_iff hentries.keyed]
    cases f <;> rfl
  · rw [Field.given_iff hitems.keyed, Field.given_iff hentries.keyed]
    cases f <;> rfl
  · exact (ofToml?_eq_none_iff hwrong.keyed).mp (by decide)

end Documents

end Config
end Logline
