import Logline.Layout.Stage

/-!
# Setting options

What becomes of an option is decided by its name and its value alone, in three ways.  A pattern is
given as a text, or as the numbers of its bytes, and nothing else in a document can stand for one: a
number with a fraction is no byte even if it is whole, and one bad item, wherever it is, spoils an
array.  The time mode is what its value reads as.  No other option exists.

An option that is refused leaves everything as it was.  That includes the zone texts, although the
host may have moved since they were captured, and setting the time mode anew would show it.

## What is here

* `Setting.integers` — an array of integers; `Setting.mapM_byte?_eq_some_iff` says which arrays read
  as bytes.
* `Setting.patternBytes_integers` and `Setting.patternBytes_eq_error` — **the values that stand for
  a pattern**, and all others.
* `Layout.setOption_pattern`, `Layout.setOption_utc` and `Layout.setOption_of_ne` — the three kinds
  of option; `Layout.setOption_of_error` — **a refused option leaves the layout as it was**.
* `Stage.lock_eq` — the lock of a layout always hands it over.
* `Stage.setOption_exact` — **what setting an option does**.
-/

set_option autoImplicit false
namespace Logline

/-! ## Values for patterns -/

namespace Setting

/-- An array of integers. -/
def integers (ns : List Int) : Json := .array (ns.map fun n ↦ .number (.integer n))

/-- The numbers of the bytes of a string. -/
def codes (p : Bytes) : List Int := p.map fun b ↦ b.toNat

theorem mem_codes_range {p : Bytes} : ∀ n ∈ codes p, 0 ≤ n ∧ n ≤ 255 := by
  intro n hn
  obtain ⟨b, -, rfl⟩ := List.mem_map.mp hn
  have hlt := b.toNat_lt
  omega

theorem toNat_ofNat_toNat {n : Int} (h : 0 ≤ n ∧ n ≤ 255) :
    ((UInt8.ofNat n.toNat).toNat : Int) = n := by
  rw [UInt8.toNat_ofNat']
  omega

/-- Integers in the range of a byte are those of a byte string. -/
theorem codes_ofNat {ns : List Int} (h : ∀ n ∈ ns, 0 ≤ n ∧ n ≤ 255) :
    codes (ns.map fun n ↦ UInt8.ofNat n.toNat) = ns := by
  rw [codes, List.map_map]
  exact (List.map_congr_left fun n hn ↦ toNat_ofNat_toNat (h n hn)).trans (List.map_id' ns)

/-- A byte in a document is its number. -/
theorem byte?_eq_some_iff {v : Json} {b : UInt8} :
    byte? v = some b ↔ v = .number (.integer b.toNat) := by
  constructor
  · intro h
    unfold byte? at h
    split at h
    · next n =>
      obtain ⟨hrange, hb⟩ := Option.ite_none_right_eq_some.mp h
      rw [← Option.some.inj hb, toNat_ofNat_toNat (by omega)]
    · cases h
  · rintro rfl
    have hrange : (0 : Int) ≤ b.toNat ∧ (b.toNat : Int) < 256 :=
      ⟨Int.natCast_nonneg _, Int.ofNat_lt.mpr b.toNat_lt⟩
    rw [byte?, if_pos hrange, Int.toNat_natCast, UInt8.ofNat_toNat]

example (x : Float) : byte? (.number (.float x)) = none := rfl

/-- The arrays that read as bytes: those of the numbers of the bytes, item by item. -/
theorem mapM_byte?_eq_some_iff {items : List Json} {p : Bytes} :
    items.mapM byte? = some p ↔ Json.array items = integers (codes p) := by
  rw [integers, codes, List.map_map, Json.array.injEq]
  induction items generalizing p with
  | nil => cases p <;> simp
  | cons v items ih =>
    have hcons : (v :: items).mapM byte? = some p ↔ ∃ b q, byte? v = some b ∧
        items.mapM byte? = some q ∧ b :: q = p := by
      simp [List.mapM_cons, Option.bind_eq_some_iff]
    rw [hcons]
    cases p with
    | nil => simp
    | cons b p => simp [byte?_eq_some_iff, ih]

theorem patternBytes_codes (name : String) (p : Bytes) :
    patternBytes name (integers (codes p)) = .ok p := by
  rw [integers, patternBytes, mapM_byte?_eq_some_iff.mpr rfl]

/-- **Integers in the range of a byte stand for a pattern**, byte by byte. -/
theorem patternBytes_integers (name : String) {ns : List Int} (h : ∀ n ∈ ns, 0 ≤ n ∧ n ≤ 255) :
    patternBytes name (integers ns) = .ok (ns.map fun n ↦ UInt8.ofNat n.toNat) := by
  have hcodes := patternBytes_codes name (ns.map fun n ↦ UInt8.ofNat n.toNat)
  rwa [codes_ofNat h] at hcodes

/-- **Nothing else than texts and byte strings stands for a pattern**, and the complaint is about
the option. -/
theorem patternBytes_eq_error (name : String) {value : Json} (htext : ∀ text, value ≠ .string text)
    (hbytes : ∀ ns, value = integers ns → ∃ n ∈ ns, n < 0 ∨ 255 < n) :
    patternBytes name value = .error (.badValue name) := by
  cases value with
  | string text => exact absurd rfl (htext text)
  | array items =>
    rw [patternBytes]
    cases hitems : items.mapM byte? with
    | none => rfl
    | some p =>
      obtain ⟨n, hn, hout⟩ := hbytes _ (mapM_byte?_eq_some_iff.mp hitems)
      have hin := mem_codes_range n hn
      omega
  | _ => rfl

/-- Whatever does not read as yes or no is named in the complaint. -/
theorem exists_notBool {value : Json} {e : Error} (h : flag value = .error e) :
    ∃ text, e = .notBool text := by
  unfold flag at h
  split at h
  · cases h
  · cases h
  · split at h
    · cases h
    · exact ⟨_, (Except.error.inj h).symm⟩
  · exact ⟨_, (Except.error.inj h).symm⟩

end Setting

/-! ## The three kinds of option -/

namespace Layout

variable (host : HostZone) (l : Layout)

theorem setOption_pattern {name : String} (h : name = "pattern" ∨ name = "format") (value : Json) :
    l.setOption host name value = l.assign (Setting.patternBytes name value) fun p ↦
      { l with template := Template.compile p } := by
  rw [setOption, if_pos h]

theorem setOption_utc (value : Json) :
    l.setOption host "utc" value = l.assign (Setting.flag value) (l.setUtc host) := by
  have h : ¬ ("utc" = "pattern" ∨ "utc" = "format") := by decide
  rw [setOption, if_neg h, if_pos rfl]

theorem setOption_of_ne {name : String} (hpattern : name ≠ "pattern") (hformat : name ≠ "format")
    (hutc : name ≠ "utc") (value : Json) :
    l.setOption host name value = (l, .error (.badOption name)) := by
  rw [setOption, if_neg (not_or.mpr ⟨hpattern, hformat⟩), if_neg hutc]

theorem assign_of_error {α : Type} {l : Layout} {read : Except Error α} {put : α → Layout}
    {e : Error} (h : (l.assign read put).2 = .error e) : (l.assign read put).1 = l := by
  cases read with
  | ok a => cases h
  | error e' => rfl

/-- **A refused option leaves the layout as it was**: nothing is put in before the whole value has
been read. -/
theorem setOption_of_error {name : String} {value : Json} {e : Error}
    (h : (l.setOption host name value).2 = .error e) : (l.setOption host name value).1 = l := by
  by_cases hpattern : name = "pattern" ∨ name = "format"
  · rw [setOption_pattern host l hpattern] at h ⊢
    exact assign_of_error h
  · by_cases hutc : name = "utc"
    · subst hutc
      rw [setOption_utc] at h ⊢
      exact assign_of_error h
    · rw [not_or] at hpattern
      rw [setOption_of_ne host l hpattern.1 hpattern.2 hutc]

end Layout

namespace Stage

/-- **The lock always hands the layout over**, poisoned or not. -/
@[simp] theorem lock_eq (s : Stage) : s.lock = s.layout := by
  rw [lock, lock?]
  cases s.poisoned <;> rfl

theorem step_setOption_of_ok {s : Stage} {name : String} {value : Json} {l : Layout}
    (h : s.layout.setOption s.host name value = (l, .ok ())) :
    s.step (.setOption name value) = pure ({ s with layout := l }, .done) := by
  rw [step, lock_eq, h]

theorem step_setOption_of_error {s : Stage} {name : String} {value : Json} {e : Error}
    (h : (s.layout.setOption s.host name value).2 = .error e) :
    s.step (.setOption name value) = pure (s, .refused e) := by
  have hset : s.layout.setOption s.host name value = (s.layout, .error e) :=
    Prod.ext (Layout.setOption_of_error s.host s.layout h) h
  rw [step, lock_eq, hset]

/-- **What setting an option does**, to any layout on any host.  The two names for a pattern take a
text, or an array of integers that are all in the range of a byte, and put the template of its bytes
in; each byte string can be given in this way, a text by its bytes as well.  Every other value is
bad for them.  The time mode takes what reads as yes or no, and passes the complaint on otherwise.
No other name is an option.  An option that is refused leaves template, time mode and zone texts as
they were, wherever the host has moved. -/
theorem setOption_exact (s : Stage) :
    let set := fun (name : String) (value : Json) ↦ s.step (.setOption name value)
    let installed := fun (p : Bytes) ↦ (pure ({ s with layout :=
      { s.layout with template := Template.compile p } }, .done) : Reported (Stage × Answer))
    let refused := fun (e : Error) ↦ (pure (s, .refused e) : Reported (Stage × Answer))
    (∀ name, name = "pattern" ∨ name = "format" →
      (∀ text, set name (.string text) = installed (Bytes.ofText text)) ∧
      (∀ ns : List Int, (∀ n ∈ ns, 0 ≤ n ∧ n ≤ 255) →
        set name (Setting.integers ns) = installed (ns.map fun n ↦ UInt8.ofNat n.toNat)) ∧
      (∀ p : Bytes, set name (Setting.integers (Setting.codes p)) = installed p) ∧
      ∀ value, (∀ text, value ≠ .string text) →
        (∀ ns, value = Setting.integers ns → ∃ n ∈ ns, n < 0 ∨ 255 < n) →
        set name value = refused (.badValue name)) ∧
    (∀ value,
      (∀ u, Setting.flag value = .ok u →
        set "utc" value = pure ({ s with layout := s.layout.setUtc s.host u }, .done)) ∧
      ∀ e, Setting.flag value = .error e →
        set "utc" value = refused e ∧ ∃ text, e = .notBool text) ∧
    (∀ name value, name ≠ "pattern" → name ≠ "format" → name ≠ "utc" →
      set name value = refused (.badOption name)) ∧
    ∀ (host : HostZone) (name : String) (value : Json) (e : Error),
      let moved := (s.step (.moveHost host)).value.1
      let outcome := (moved.step (.setOption name value)).value
      outcome.2 = .refused e → outcome.1.layout = s.layout := by
  intro set installed refused
  refine ⟨fun name hname ↦ ?_, fun value ↦ ⟨fun u hu ↦ ?_, fun e he ↦ ?_⟩,
    fun name value hpattern hformat hutc ↦ ?_, fun host name value e ↦ ?_⟩
  · have hset := s.layout.setOption_pattern s.host hname
    refine ⟨fun text ↦ step_setOption_of_ok (hset _), fun ns hns ↦ ?_, fun p ↦ ?_,
      fun value htext hbytes ↦ ?_⟩
    · refine step_setOption_of_ok ((hset _).trans ?_)
      rw [Setting.patternBytes_integers name hns]
      rfl
    · refine step_setOption_of_ok ((hset _).trans ?_)
      rw [Setting.patternBytes_codes]
      rfl
    · refine step_setOption_of_error ((congrArg Prod.snd (hset _)).trans ?_)
      rw [Setting.patternBytes_eq_error name htext hbytes]
      rfl
  · refine step_setOption_of_ok ((s.layout.setOption_utc s.host value).trans ?_)
    rw [hu]
    rfl
  · have hset := congrArg Prod.snd (s.layout.setOption_utc s.host value)
    refine ⟨step_setOption_of_error (hset.trans ?_), Setting.exists_notBool he⟩
    rw [he]
    rfl
  · exact step_setOption_of_error
      (congrArg Prod.snd (s.layout.setOption_of_ne s.host hpattern hformat hutc value))
  · intro moved outcome houtcome
    cases hset : (moved.layout.setOption moved.host name value).2 with
    | ok u =>
      have hstep : outcome = ({ moved with layout := _ }, .done) :=
        congrArg Reported.value (step_setOption_of_ok (Prod.ext rfl hset))
      rw [hstep] at houtcome
      cases houtcome
    | error e' =>
      have hstep : outcome = (moved, .refused e') :=
        congrArg Reported.value (step_setOption_of_error hset)
      rw [hstep]
      rfl

/-- An array with a bad item at its end, and the same array without it, on a host that has moved
since the zone texts were captured. -/
theorem setOption_exact_late :
    let s : Stage :=
      { layout := Layout.ofPattern ⟨-3600, none, by decide⟩ "keep %z", host := ⟨0, none, by decide⟩ }
    s.step (.setOption "format" (Setting.integers [37, 76, 256])) =
        pure (s, .refused (.badValue "format")) ∧
      s.layout.zone = ⟨Bytes.ofText "-0100", Bytes.ofText "-01:00"⟩ ∧
      (s.step (.setOption "format" (Setting.integers [37, 76]))).value.1.layout =
        { s.layout with template := Template.parse "%L" } := by
  intro s
  obtain ⟨-, hbytes, -, hbad⟩ := s.setOption_exact.1 "format" (.inr rfl)
  refine ⟨hbad _ nofun fun ns hns ↦ ?_, by decide, ?_⟩
  · have hlate : Json.number (.integer 256) ∈ ns.map fun n ↦ Json.number (.integer n) := by
      rw [← Json.array.inj hns]
      exact List.mem_map_of_mem (by decide)
    obtain ⟨n, hn, h256⟩ := List.mem_map.mp hlate
    cases h256
    exact ⟨256, hn, .inr (by decide)⟩
  · exact congrArg (fun outcome ↦ outcome.value.1.layout) (hbytes [37, 76] (by decide))

end Stage
end Logline
