import Logline.Proofs.Options
import Mathlib.Data.List.DropRight
import Mathlib.Data.List.Induction

/-!
# What a layout remembers of its history

A layout is made in one of three ways and then used: options are set, some of them in vain, records
are rendered, and the zone of the host moves.  This file says what is left of all that.  Of every
step it is enough to know whether it sets a pattern (`Stage.Step.pattern?`), decides on universal or
local time (`Stage.Step.utc?`) or moves the host (`Stage.Step.host?`); the layout is then given by
the last step of the first two kinds, and by the last move of the host before the latter.

## What is here

* `Layout.Origin` — the ways to make a layout, with the pattern and the time mode it starts from.
* `Layout.setOption_cases` — **everything that setting an option can do**: one of three outcomes.
* `Stage.value_step` — what a step leaves behind, in one equation, the state of the lock included;
  `Stage.after` iterates it.
* `Stage.latest` and `Stage.beforeLast` — the last thing that a list of steps says, and the steps
  before the one that says it.
* `Stage.layout_after` — **the layout after any history**.
-/

set_option autoImplicit false
namespace Logline

/-! ## Making a layout -/

namespace Layout

/-- The ways to make a layout. -/
inductive Origin where
  | default
  | pattern (text : String)
  | config (c : Config)
  deriving DecidableEq, Repr

namespace Origin

/-- The layout that is made on a host. -/
def make (host : HostZone) : Origin → Layout
  | default => Layout.default host
  | pattern text => ofPattern host text
  | config c => (ofConfig host c).value

/-- The pattern that the layout starts from. -/
def text : Origin → String
  | default => Preset.standard
  | pattern text => if text = "" then Preset.standard else text
  | config c => c.effectivePattern.value

/-- Whether the layout starts in universal time. -/
def utc : Origin → Bool
  | config c => c.utc
  | _ => false

end Origin

end Layout

theorem Preset.pattern?_ne_empty {name text : String} (h : Preset.pattern? name = some text) :
    text ≠ "" := by
  rw [Preset.pattern?, Option.map_eq_some_iff] at h
  obtain ⟨p, hp, rfl⟩ := h
  have hall : ∀ p ∈ Preset.all, p.2 ≠ "" := by decide
  exact hall p (List.mem_of_find?_eq_some hp)

/-- A configuration never settles on the empty pattern. -/
theorem Config.effectivePattern_ne_empty (c : Config) : c.effectivePattern.value ≠ "" := by
  rw [Config.effectivePattern]
  split
  · next h => exact h
  · split
    · next text h => exact Preset.pattern?_ne_empty h
    · exact show Preset.standard ≠ "" by decide

namespace Layout

theorem Origin.make_eq (host : HostZone) (o : Origin) :
    o.make host =
      { template := Template.parse o.text
        utc := o.utc
        zone := ZoneText.capture host o.utc } := by
  cases o with
  | default => rfl
  | pattern text => rfl
  | config c =>
    have h := c.effectivePattern_ne_empty
    simp only [Origin.make, ofConfig, Reported.value_bind, Reported.value_pure, ofPattern, if_neg h,
      setUtc, Origin.text, Origin.utc]

/-! ## Options -/

/-- The pattern that an option sets, if it is one for patterns and its value is one. -/
def optionPattern? (name : String) (value : Json) : Option Bytes :=
  if name = "pattern" ∨ name = "format" then (Setting.patternBytes name value).toOption else none

/-- The time mode that an option decides on, if it is the one for that and its value says yes or
no. -/
def optionUtc? (name : String) (value : Json) : Option Bool :=
  if name = "utc" then (Setting.flag value).toOption else none

/-- **Everything that setting an option can do**: set a pattern, decide on the time mode, or
fail. -/
theorem setOption_cases (host : HostZone) (l : Layout) (name : String) (value : Json) :
    (∃ p, optionPattern? name value = some p ∧ optionUtc? name value = none ∧
      l.setOption host name value = ({ l with template := Template.compile p }, .ok ())) ∨
    (∃ u, optionPattern? name value = none ∧ optionUtc? name value = some u ∧
      l.setOption host name value = (l.setUtc host u, .ok ())) ∨
    (∃ e, optionPattern? name value = none ∧ optionUtc? name value = none ∧
      l.setOption host name value = (l, .error e)) := by
  rw [optionPattern?, optionUtc?]
  by_cases hp : name = "pattern" ∨ name = "format"
  · have hu : name ≠ "utc" := by rcases hp with rfl | rfl <;> decide
    rw [if_pos hp, if_neg hu, setOption_pattern host l hp]
    cases Setting.patternBytes name value with
    | ok p => exact .inl ⟨p, rfl, rfl, rfl⟩
    | error e => exact .inr (.inr ⟨e, rfl, rfl, rfl⟩)
  · rw [if_neg hp]
    by_cases hu : name = "utc"
    · rw [if_pos hu, hu, setOption_utc]
      cases Setting.flag value with
      | ok u => exact .inr (.inl ⟨u, rfl, rfl, rfl⟩)
      | error e => exact .inr (.inr ⟨e, rfl, rfl, rfl⟩)
    · rw [not_or] at hp
      rw [if_neg hu, setOption_of_ne host l hp.1 hp.2 hu]
      exact .inr (.inr ⟨_, rfl, rfl, rfl⟩)

/-- An option is refused exactly when it neither sets a pattern nor decides on the time mode. -/
theorem setOption_refused_iff {host : HostZone} {l : Layout} {name : String} {value : Json} :
    (∃ e, (l.setOption host name value).2 = .error e) ↔
      optionPattern? name value = none ∧ optionUtc? name value = none := by
  obtain ⟨p, hp, hu, h⟩ | ⟨u, hp, hu, h⟩ | ⟨e, hp, hu, h⟩ := setOption_cases host l name value
  all_goals rw [h, hp, hu]; simp

end Layout

/-! ## Steps -/

namespace Stage

namespace Step

/-- The pattern that a step sets. -/
def pattern? : Step → Option Bytes
  | .setOption name value | .trySetOption name value => Layout.optionPattern? name value
  | .setPattern text => some (Bytes.ofText text)
  | _ => none

/-- The time mode that a step decides on. -/
def utc? : Step → Option Bool
  | .setOption name value | .trySetOption name value => Layout.optionUtc? name value
  | .setUtc utc => some utc
  | _ => none

/-- Whether a step breaks down on a layout: it is a rendering, and fails. -/
def breaks (l : Layout) : Step → Bool
  | .format record => !(l.format record).isOk
  | _ => false

/-- The step that sets a pattern byte by byte. -/
def ofBytes (p : Bytes) : Step :=
  .setOption "pattern" (.array (p.map fun b ↦ .number (.integer b.toNat)))

/-- The zone that a step moves the host to. -/
def host? : Step → Option HostZone
  | .moveHost host => some host
  | _ => none

/-- Every byte string is a pattern that some step sets. -/
theorem pattern?_ofBytes (p : Bytes) : (ofBytes p).pattern? = some p := by
  have hvalue : Json.array (p.map fun b ↦ .number (.integer b.toNat)) =
      Setting.integers (Setting.codes p) := by
    rw [Setting.integers, Setting.codes, List.map_map]
    rfl
  rw [ofBytes, pattern?, Layout.optionPattern?, if_pos (.inl rfl), hvalue,
    Setting.patternBytes_codes]
  rfl

/-- No step sets a pattern and decides on the time mode as well. -/
theorem pattern?_eq_none_or (x : Step) : x.pattern? = none ∨ x.utc? = none := by
  cases x with
  | setOption name value | trySetOption name value =>
    rw [pattern?, utc?, Layout.optionPattern?, Layout.optionUtc?]
    by_cases hu : name = "utc"
    · subst hu; exact .inl rfl
    · rw [if_neg hu]; exact .inr rfl
  | setPattern text => exact .inr rfl
  | setUtc utc => exact .inl rfl
  | format record => exact .inl rfl
  | template => exact .inl rfl
  | moveHost host => exact .inl rfl

end Step

/-- Setting an option leaves the same of a layout whether the caller hears of an error or not. -/
theorem value_trySetOption (host : HostZone) (l : Layout) (name : String) (value : Json) :
    (l.trySetOption host name value).value = (l.setOption host name value).1 := by
  rw [Layout.trySetOption]
  obtain ⟨l', result⟩ := l.setOption host name value
  cases result <;> rfl

/-- **What a step leaves behind.** -/
theorem value_step (s : Stage) (x : Step) :
    (s.step x).value.1 =
      { layout :=
          { template := (x.pattern?.map Template.compile).getD s.layout.template
            utc := x.utc?.getD s.layout.utc
            zone := (x.utc?.map (ZoneText.capture s.host)).getD s.layout.zone }
        host := x.host?.getD s.host
        poisoned := s.poisoned || x.breaks s.layout } := by
  -- only a rendering that fails touches the lock
  have hlock : s.poisoned = (s.poisoned || false) := (Bool.or_false _).symm
  cases x with
  | setOption name value =>
    rw [step, lock_eq, Step.pattern?, Step.utc?]
    obtain ⟨p, hp, hu, h⟩ | ⟨u, hp, hu, h⟩ | ⟨e, hp, hu, h⟩ :=
      Layout.setOption_cases s.host s.layout name value
    all_goals rw [h, hp, hu]; exact congrArg (Stage.mk _ _) hlock
  | trySetOption name value =>
    rw [step, lock_eq, Step.pattern?, Step.utc?, Reported.value_bind, Reported.value_pure,
      value_trySetOption]
    obtain ⟨p, hp, hu, h⟩ | ⟨u, hp, hu, h⟩ | ⟨e, hp, hu, h⟩ :=
      Layout.setOption_cases s.host s.layout name value
    all_goals rw [h, hp, hu]; exact congrArg (Stage.mk _ _) hlock
  | setPattern text | setUtc utc =>
    rw [step, lock_eq]
    exact congrArg (Stage.mk _ _) hlock
  | format record =>
    rw [step, lock_eq, Step.breaks]
    cases s.layout.format record with
    | ok bytes => exact congrArg (Stage.mk _ _) hlock
    | error e => exact congrArg (Stage.mk _ _) (Bool.or_true _).symm
  | template | moveHost host => exact congrArg (Stage.mk _ _) hlock

/-- The stage after a list of steps. -/
def after (s : Stage) (xs : List Step) : Stage := (s.run xs).value.1

theorem after_concat (s : Stage) (xs : List Step) (x : Step) :
    s.after (xs ++ [x]) = ((s.after xs).step x).value.1 := by
  induction xs generalizing s with
  | nil => rfl
  | cons y ys ih => exact ih (s.step y).value.1

/-! ## The last thing that a list of steps says -/

section Latest

variable {α : Type} (f : Step → Option α)

/-- What the last step that says something says; `initial` if none does. -/
def latest (initial : α) (xs : List Step) : α := (xs.filterMap f).getLastD initial

/-- The steps before the last one that says something; none if none does. -/
def beforeLast (xs : List Step) : List Step := (xs.rdropWhile fun x ↦ (f x).isNone).dropLast

theorem latest_concat (initial : α) (xs : List Step) (x : Step) :
    latest f initial (xs ++ [x]) = (f x).getD (latest f initial xs) := by
  rw [latest, latest, List.filterMap_append]
  cases h : f x with
  | none => simp [h]
  | some a => simp [h]

theorem beforeLast_concat (xs : List Step) (x : Step) :
    beforeLast f (xs ++ [x]) = if (f x).isNone then beforeLast f xs else xs := by
  rw [beforeLast]
  split
  · next h => rw [List.rdropWhile_concat_pos (fun x ↦ (f x).isNone) xs x h, beforeLast]
  · next h =>
    rw [List.rdropWhile_concat_neg (fun x ↦ (f x).isNone) xs x h, List.dropLast_concat]

end Latest

/-- The zone of the host when the time mode was last decided on, for a layout made on `host`. -/
def captured (host : HostZone) (xs : List Step) : HostZone :=
  latest Step.host? host (beforeLast Step.utc? xs)

theorem captured_concat (host : HostZone) (xs : List Step) (x : Step) :
    captured host (xs ++ [x]) =
      if x.utc?.isNone then captured host xs else latest Step.host? host xs := by
  rw [captured, beforeLast_concat]
  split <;> rfl

/-! ## The layout after any history -/

/-- A new layout on a host. -/
def ofOrigin (host : HostZone) (o : Layout.Origin) : Stage := { layout := o.make host, host }

/-- What the steps `xs` on a layout made by `o` on `host` have led to: each part of the stage is as
the last step that concerns it has left it. -/
structure Remembers (o : Layout.Origin) (host : HostZone) (xs : List Step) (s : Stage) : Prop where
  template : s.layout.template =
    Template.compile (latest Step.pattern? (Bytes.ofText o.text) xs)
  utc : s.layout.utc = latest Step.utc? o.utc xs
  zone : s.layout.zone = ZoneText.capture (captured host xs) s.layout.utc
  host : s.host = latest Step.host? host xs

theorem Remembers.nil (o : Layout.Origin) (host : HostZone) :
    Remembers o host [] (ofOrigin host o) := by
  rw [ofOrigin, Layout.Origin.make_eq]
  exact ⟨rfl, rfl, rfl, rfl⟩

theorem Remembers.concat {o : Layout.Origin} {host : HostZone} {xs : List Step} {s : Stage}
    (h : Remembers o host xs s) (x : Step) :
    Remembers o host (xs ++ [x]) (s.step x).value.1 := by
  obtain ⟨htemplate, hutc, hzone, hhost⟩ := h
  rw [value_step]
  refine ⟨?_, ?_, ?_, ?_⟩
  · rw [latest_concat, htemplate]
    cases x.pattern? <;> rfl
  · rw [latest_concat, hutc]
  · rw [captured_concat]
    cases hx : x.utc? with
    | none => exact hzone
    | some u => exact congrArg (ZoneText.capture · u) hhost
  · rw [latest_concat, hhost]

/-- The invariant of a layout in use, after any steps. -/
theorem remembers_after (o : Layout.Origin) (host : HostZone) (xs : List Step) :
    Remembers o host xs ((ofOrigin host o).after xs) := by
  induction xs using List.reverseRecOn with
  | nil => exact Remembers.nil o host
  | append_singleton xs x ih =>
    rw [after_concat]
    exact ih.concat x

theorem Remembers.zone_eq_universal {o : Layout.Origin} {host : HostZone} {xs : List Step}
    {s : Stage} (h : Remembers o host xs s) (hutc : s.layout.utc = true) :
    s.layout.zone = ZoneText.universal := by
  rw [h.zone, hutc]
  rfl

/-- **The layout after any history.**  Its template is that of the last pattern set, its time mode
the last one decided on, and its zone texts those that the host had at that moment; a layout in
universal time shows the texts of universal time.  So whatever comes next, setting a pattern leaves
time mode and zone texts alone, deciding on the time mode leaves the template alone, and all other
steps, refused options among them, change nothing. -/
theorem layout_after (o : Layout.Origin) (host : HostZone) (xs : List Step) :
    let s := (ofOrigin host o).after xs
    Remembers o host xs s ∧
    (s.layout.utc = true → s.layout.zone = ZoneText.universal) ∧
    (∀ x : Step,
      let l := ((ofOrigin host o).after (xs ++ [x])).layout
      (x.pattern? ≠ none → l.utc = s.layout.utc ∧ l.zone = s.layout.zone) ∧
      (x.utc? ≠ none → l.template = s.layout.template) ∧
      (x.pattern? = none → x.utc? = none → l = s.layout)) ∧
    (∀ (name : String) (value : Json),
      (∃ e, (s.layout.setOption s.host name value).2 = .error e) ↔
        (Step.setOption name value).pattern? = none ∧
          (Step.setOption name value).utc? = none) := by
  intro s
  have hs : Remembers o host xs s := remembers_after o host xs
  refine ⟨hs, hs.zone_eq_universal, fun x ↦ ?_, fun name value ↦ Layout.setOption_refused_iff⟩
  rw [after_concat, value_step]
  refine ⟨fun hp ↦ ?_, fun hu ↦ ?_, fun hp hu ↦ ?_⟩
  · rw [x.pattern?_eq_none_or.resolve_left hp]
    exact ⟨rfl, rfl⟩
  · rw [x.pattern?_eq_none_or.resolve_right hu]
    rfl
  · rw [hp, hu]
    rfl

/-- Two moves of the host, an option that is refused and a pattern that is set after the time mode:
the zone texts stay those of the first move. -/
theorem layout_after_moves :
    ((ofOrigin ⟨0, none, by decide⟩ (.pattern "")).after
      [.moveHost ⟨32400, some "JST", by decide⟩, .setOption "utc" (.bool false),
        .moveHost ⟨-18000, none, by decide⟩, .trySetOption "utc" .null,
        .setPattern "%Z"]).layout.zone = ⟨Bytes.ofText "JST", Bytes.ofText "+09:00"⟩ :=
  (layout_after _ _ _).1.zone.trans (by decide)

end Stage
end Logline
