import Logline.Proofs.History
import Logline.Proofs.Names
import Logline.Request

/-!
# The layout of a request

A request and a configuration may each name a pattern, outright or by the name of a preset.  This
file says which of them counts, and when a request is turned down: a preset that the request itself
names has to exist, unless a pattern stands in its place, whereas one of the configuration may be
unknown.

## What is here

* `Request.candidates` — everything that could be meant, in the order in which it counts, and
  `Request.settled`, the first of it.
* `Request.Rejected` — the requests that are turned down.
* `Request.value_layout` — the layout of a request in one equation.
* `Request.layout_settled` — **which layout a request gets, and when it gets none**.
-/

set_option autoImplicit false
namespace Logline

/-- The pattern of a configuration is its own, or that of its preset, or the default. -/
theorem Config.value_effectivePattern (c : Config) :
    c.effectivePattern.value =
      ((if c.pattern = "" then none else some c.pattern).or (Preset.pattern? c.preset)).getD
        Preset.standard := by
  rw [effectivePattern]
  by_cases h : c.pattern = ""
  · rw [if_neg (not_not_intro h), if_pos h, Option.none_or]
    cases Preset.pattern? c.preset <;> rfl
  · rw [if_pos h, if_neg h]
    rfl

/-- The layout that a pattern and a time mode make on a host. -/
def Layout.ofParts (host : HostZone) (pattern : String) (utc : Bool) : Layout :=
  { template := Template.parse pattern, utc, zone := ZoneText.capture host utc }

namespace Request

/-! ## What counts -/

/-- What could be meant by a request on top of a configuration: its own pattern, even an empty one;
the preset it names; the pattern of the configuration, unless it is empty; the preset of the
configuration; the default.  What is missing or unknown is not there. -/
def candidates (q : Request) (c : Config) : List (Option String) :=
  [q.pattern, q.preset.bind Preset.pattern?, if c.pattern = "" then none else some c.pattern,
    Preset.pattern? c.preset, some Preset.standard]

/-- The first pattern that could be meant. -/
def settled (q : Request) (c : Config) : String :=
  ((q.candidates c).findSome? id).getD Preset.standard

/-- An empty pattern counts in a request, but not in a configuration. -/
example : settled { pattern := some "" } { pattern := "%M" } = "" ∧
    settled {} { pattern := "", preset := "abbrev" } = Preset.abbreviated := by decide

/-- The request names a preset that does not exist, and no pattern in its place. -/
def Rejected (q : Request) (name : String) : Prop :=
  q.pattern = none ∧ q.preset = some name ∧ Preset.pattern? name = none

/-- What a request names, unless it is turned down. -/
theorem ownPattern?_cases (q : Request) :
    (∃ name, q.Rejected name ∧ q.ownPattern? = .error (.presetNotFound name)) ∨
    (∀ name, ¬ q.Rejected name) ∧
      q.ownPattern? = .ok (q.pattern.or (q.preset.bind Preset.pattern?)) := by
  rw [ownPattern?]
  cases hpattern : q.pattern with
  | some pattern =>
    refine .inr ⟨fun name h ↦ ?_, rfl⟩
    cases hpattern.symm.trans h.1
  | none =>
    cases hpreset : q.preset with
    | none =>
      refine .inr ⟨fun name h ↦ ?_, rfl⟩
      cases hpreset.symm.trans h.2.1
    | some name =>
      simp only [Option.bind_some, Option.none_or]
      cases hname : Preset.pattern? name with
      | none => exact .inl ⟨name, ⟨hpattern, hpreset, hname⟩, by simp only⟩
      | some pattern =>
        refine .inr ⟨fun other h ↦ ?_, by simp only⟩
        obtain rfl : name = other := Option.some.inj (hpreset.symm.trans h.2.1)
        cases hname.symm.trans h.2.2

/-! ## The layout -/

/-- The layout of a request: that of the configuration, with the pattern and the time mode that the
request asks for. -/
theorem value_layout (zone : HostZone) (q : Request) (c : Config) :
    (q.layout zone c).value = q.ownPattern?.map fun own ↦
      Layout.ofParts zone (own.getD c.effectivePattern.value) (q.utc || c.utc) := by
  have hbase : (Layout.ofConfig zone c).value =
      Layout.ofParts zone c.effectivePattern.value c.utc := Layout.Origin.make_eq zone (.config c)
  rw [layout, Reported.value_bind, hbase]
  cases q.ownPattern? with
  | error e => rfl
  | ok own => cases own <;> cases q.utc <;> rfl

/-- What a request names comes before what the configuration says. -/
theorem settled_eq (q : Request) (c : Config) :
    q.settled c = (q.pattern.or (q.preset.bind Preset.pattern?)).getD c.effectivePattern.value := by
  rw [settled, candidates, Config.value_effectivePattern]
  cases q.pattern <;> cases q.preset.bind Preset.pattern? <;>
    cases (if c.pattern = "" then none else some c.pattern) <;>
    cases Preset.pattern? c.preset <;> rfl

theorem layout_eq_error_iff {zone : HostZone} {q : Request} {c : Config} {e : Error} :
    (q.layout zone c).value = .error e ↔ ∃ name, q.Rejected name ∧ e = .presetNotFound name := by
  rw [value_layout]
  obtain ⟨name, hname, h⟩ | ⟨hnone, h⟩ := q.ownPattern?_cases
  · rw [h, Except.map, Except.error.injEq]
    constructor
    · rintro rfl
      exact ⟨name, hname, rfl⟩
    · rintro ⟨other, hother, rfl⟩
      rw [Option.some.inj (hname.2.1.symm.trans hother.2.1)]
  · rw [h]
    exact iff_of_false (by rintro ⟨⟩) fun ⟨name, hname, _⟩ ↦ hnone name hname

theorem layout_eq_ok_iff {zone : HostZone} {q : Request} {c : Config} {l : Layout} :
    (q.layout zone c).value = .ok l ↔
      (∀ name, ¬ q.Rejected name) ∧ l = Layout.ofParts zone (q.settled c) (q.utc || c.utc) := by
  rw [value_layout, settled_eq]
  obtain ⟨name, hname, h⟩ | ⟨hnone, h⟩ := q.ownPattern?_cases
  · rw [h]
    exact iff_of_false (by rintro ⟨⟩) fun h' ↦ h'.1 name hname
  · rw [h, Except.map, Except.ok.injEq, eq_comm]
    exact (and_iff_right hnone).symm

/-- A preset that a request names without a pattern. -/
theorem value_layout_preset {zone : HostZone} {q : Request} {c : Config} {name : String}
    (hpattern : q.pattern = none) (hpreset : q.preset = some name) :
    (q.layout zone c).value =
      match Preset.pattern? name with
      | some pattern => .ok (Layout.ofParts zone pattern (q.utc || c.utc))
      | none => .error (.presetNotFound name) := by
  rw [value_layout, ownPattern?, hpattern, hpreset]
  simp only
  cases Preset.pattern? name with
  | some pattern => rfl
  | none => rfl

/-- A preset that only the configuration names, without a pattern. -/
theorem value_layout_configured {zone : HostZone} {q : Request} {c : Config}
    (hpattern : q.pattern = none) (hpreset : q.preset = none) (hc : c.pattern = "") :
    (q.layout zone c).value =
      .ok (Layout.ofParts zone ((Preset.pattern? c.preset).getD Preset.standard)
        (q.utc || c.utc)) := by
  rw [value_layout, ownPattern?, hpattern, hpreset, Config.value_effectivePattern, if_pos hc,
    Option.none_or]
  simp only [Except.map, Option.getD_none]

/-- **Which layout a request gets, and when it gets none.**  A request is turned down exactly if it
names a preset that does not exist and no pattern in its place, whatever the configuration says; the
error carries the name as it was given.  Otherwise its layout shows the first pattern that could be
meant, and it is in universal time if the request or the configuration wants that.  A name is that
of a preset exactly if it writes it, up to blanks at its ends and ASCII case.  So a name of a preset
makes the same layout in a request as in a configuration, and any other name is turned down in a
request and stands for the default in a configuration. -/
theorem layout_settled (zone : HostZone) (q : Request) (c : Config) :
    (∀ e, (q.layout zone c).value = .error e ↔
      ∃ name, q.Rejected name ∧ e = .presetNotFound name) ∧
    (∀ l, (q.layout zone c).value = .ok l ↔
      (∀ name, ¬ q.Rejected name) ∧ l = Layout.ofParts zone (q.settled c) (q.utc || c.utc)) ∧
    (∀ name pattern, Preset.pattern? name = some pattern ↔
      ∃ key, (key, pattern) ∈ Preset.all ∧ Text.Spells key name) ∧
    ∀ name,
      let asked := ({ q with pattern := none, preset := some name }.layout zone c).value
      let configured := ({ q with pattern := none, preset := none }.layout zone
        { c with pattern := "", preset := name }).value
      match Preset.pattern? name with
      | some pattern =>
        asked = configured ∧ configured = .ok (Layout.ofParts zone pattern (q.utc || c.utc))
      | none =>
        asked = .error (.presetNotFound name) ∧
          configured = .ok (Layout.ofParts zone Preset.standard (q.utc || c.utc)) := by
  refine ⟨fun e ↦ layout_eq_error_iff, fun l ↦ layout_eq_ok_iff,
    fun name pattern ↦ Preset.pattern?_eq_some_iff, fun name ↦ ?_⟩
  intro asked configured
  have hasked : asked = _ := value_layout_preset rfl rfl
  have hconfigured : configured = _ := value_layout_configured rfl rfl rfl
  rw [hasked, hconfigured]
  cases Preset.pattern? name with
  | some pattern => exact ⟨rfl, rfl⟩
  | none => exact ⟨rfl, rfl⟩

end Request
end Logline
