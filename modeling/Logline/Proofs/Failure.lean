import Logline.Proofs.Rendering

/-!
# When rendering fails

A record has no rendering for one reason only: the layout is in local time, its template shows the
calendar or the clock, and the wall clock of the record shows a date outside the range of the
calendar.  One that fails breaks down while it holds the lock of the layout, and the lock stays
poisoned from then on.  Nobody sees that: whoever comes next takes the layout all the same.  So,
whether it fails or not, rendering only looks: a run from which renderings are struck out goes on as
if nothing had happened.

## What is here

* `Template.Timed` — a template that shows the calendar or the clock, said by its segments.
* `Layout.format_eq_ok_iff` and `Layout.format_eq_error_iff` — the records that a layout renders,
  and those that it does not.
* `Stage.rendered_after_iff` — **which records are rendered after any history**, and which layouts
  render all of them.
* `Stage.Alike` — stages that differ in their locks at most; `Stage.run_alike` — **the state of the
  lock is never seen**; `Stage.poisoned_run_iff` — what poisons it.
* `Stage.Marked` — a run with renderings to be struck out.
* `Stage.rendering_only_looks` — **rendering fails for one reason and leaves nothing behind**.
-/

set_option autoImplicit false
namespace Logline

/-! ## Templates that show the time -/

/-- The codes that show the calendar or the clock. -/
def Code.timed : List Code :=
  [.timeMicros, .time, .hour, .minute, .dateSlash, .dateDash, .dateShort]

theorem Code.showsTime_iff {c : Code} : c.showsTime = true ↔ c ∈ Code.timed := by
  cases c <;> decide

/-- Some segment holds a code for the calendar or the clock. -/
def Template.Timed (t : Template) : Prop :=
  ∃ s ∈ t.segments, ∃ c ∈ s.code, c ∈ Code.timed

theorem Template.showsTime_iff {t : Template} : t.showsTime = true ↔ t.Timed := by
  simp only [showsTime, Timed, List.any_eq_true, Option.any_eq_true, Code.showsTime_iff,
    Option.mem_def]

/-! ## Rendering one record -/

namespace Layout

/-- The two ways to be rendered without the wall clock, and the range that it has to stay in
otherwise. -/
theorem renders_iff {l : Layout} {r : Record} :
    l.Renders r ↔ l.utc = true ∨ ¬ l.template.Timed ∨
      Representable (r.created.second + r.created.offset) := by
  rw [Renders, Template.showsTime_iff]
  cases l.utc with
  | true => simp
  | false => simp [imp_iff_not_or]

theorem format_eq_ok_iff {l : Layout} {r : Record} {b : Bytes} :
    l.format (some r) = .ok b ↔
      l.Renders r ∧ b = l.template.fill (r.field (r.moment l.utc) l.zone) := by
  rw [format_some]
  by_cases h : l.Renders r
  · rw [if_pos h, Except.ok.injEq, eq_comm]
    exact (and_iff_right h).symm
  · rw [if_neg h]
    exact iff_of_false (by rintro ⟨⟩) fun h' ↦ h h'.1

/-- A missing record is always rendered, and any other one unless its wall clock is in the way. -/
theorem format_eq_error_iff {l : Layout} {record : Option Record} :
    (∃ e, l.format record = .error e) ↔ ∃ r, record = some r ∧ ¬ l.Renders r := by
  cases record with
  | none => exact iff_of_false (by rintro ⟨e, ⟨⟩⟩) (by rintro ⟨r, ⟨⟩, -⟩)
  | some r =>
    simp only [Option.some.injEq, exists_eq_left', format_some]
    by_cases h : l.Renders r
    · rw [if_pos h]
      exact iff_of_false (by rintro ⟨e, ⟨⟩⟩) (not_not_intro h)
    · rw [if_neg h]
      exact iff_of_true ⟨_, rfl⟩ h

/-- A record of the last instant of the calendar, on a clock one second east of it. -/
def outlier : Record := { created := { second := latest, nano := 999999999, offset := 1 } }

theorem not_representable_outlier :
    ¬ Representable (outlier.created.second + outlier.created.offset) := by decide

/-- The layouts that render every record. -/
theorem forall_renders_iff {l : Layout} :
    (∀ r, l.Renders r) ↔ l.utc = true ∨ ¬ l.template.Timed := by
  simp only [renders_iff]
  constructor
  · intro h
    obtain hutc | htimed | hrange := h outlier
    · exact .inl hutc
    · exact .inr htimed
    · exact absurd hrange not_representable_outlier
  · rintro (hutc | htimed) r
    · exact .inl hutc
    · exact .inr (.inl htimed)

end Layout

namespace Stage

/-- **Which records are rendered.**  After any history, a record is rendered if the layout is in
universal time, or its template shows neither calendar nor clock, or the wall clock of the record is
in the calendar's range; it then is what the last pattern reads as.  So the layouts that render
every record are those in universal time and those that show neither calendar nor clock. -/
theorem rendered_after_iff (o : Layout.Origin) (host : HostZone) (xs : List Step) :
    let l := ((ofOrigin host o).after xs).layout
    (∀ (r : Record) (b : Bytes), l.format (some r) = .ok b ↔
      (l.utc = true ∨ ¬ l.template.Timed ∨ Representable (r.created.second + r.created.offset)) ∧
        b = Pattern.expand (r.field (r.moment l.utc) l.zone) false
          (latest Step.pattern? (Bytes.ofText o.text) xs)) ∧
    ((∀ r, ∃ b, l.format (some r) = .ok b) ↔ l.utc = true ∨ ¬ l.template.Timed) := by
  intro l
  constructor
  · intro r b
    rw [Layout.format_eq_ok_iff, Layout.renders_iff, (remembers_after o host xs).template,
      Template.fill_compile]
  · simp only [Layout.format_eq_ok_iff, exists_and_left, exists_eq, and_true]
    exact Layout.forall_renders_iff

/-- The time of day cannot be rendered in local time at the very end of the calendar, although the
time of day does not depend on the date. -/
theorem not_rendered_outlier :
    ((ofOrigin ⟨0, none, by decide⟩ (.pattern "%T")).after []).layout.format
        (some Layout.outlier) = .error .localDateOutOfRange ∧
    ¬ ∀ (o : Layout.Origin) (host : HostZone) (xs : List Step) (r : Record),
      ∃ b, ((ofOrigin host o).after xs).layout.format (some r) = .ok b := by
  have h : ((ofOrigin ⟨0, none, by decide⟩ (.pattern "%T")).after []).layout.format
      (some Layout.outlier) = .error .localDateOutOfRange := by decide
  refine ⟨h, fun hall ↦ ?_⟩
  obtain ⟨b, hb⟩ := hall (.pattern "%T") ⟨0, none, by decide⟩ [] Layout.outlier
  rw [h] at hb
  cases hb

/-! ## The lock -/

/-- Two stages that differ in the state of their locks at most. -/
def Alike (s s' : Stage) : Prop := s.layout = s'.layout ∧ s.host = s'.host

theorem Alike.refl (s : Stage) : s.Alike s := ⟨rfl, rfl⟩

/-- One step on stages that are alike. -/
theorem step_alike {s s' : Stage} (h : s.Alike s') (x : Step) :
    (s.step x).reports = (s'.step x).reports ∧ (s.step x).value.2 = (s'.step x).value.2 ∧
      (s.step x).value.1.Alike (s'.step x).value.1 := by
  obtain ⟨layout, host, poisoned⟩ := s
  obtain ⟨layout', host', poisoned'⟩ := s'
  obtain ⟨rfl, rfl⟩ : layout = layout' ∧ host = host' := h
  cases x with
  | setOption name value =>
    rw [step, step, lock_eq, lock_eq]
    simp only
    obtain ⟨l, result⟩ := layout.setOption host name value
    cases result <;> exact ⟨rfl, rfl, rfl, rfl⟩
  | trySetOption name value | setPattern pattern | setUtc utc | template =>
    rw [step, step, lock_eq, lock_eq]
    exact ⟨rfl, rfl, rfl, rfl⟩
  | format record =>
    rw [step, step, lock_eq, lock_eq]
    simp only
    cases layout.format record <;> exact ⟨rfl, rfl, rfl, rfl⟩
  | moveHost host => exact ⟨rfl, rfl, rfl, rfl⟩

theorem run_cons (s : Stage) (x : Step) (rest : List Step) :
    s.run (x :: rest) =
      let later := (s.step x).value.1.run rest
      ⟨(s.step x).reports ++ later.reports, later.value.1, (s.step x).value.2 :: later.value.2⟩ :=
  congrArg (Reported.mk · _) (congrArg ((s.step x).reports ++ ·) (List.append_nil _))

/-- **The state of the lock is never seen.**  Two runs of the same steps on stages that are alike
report the same and get the same answers, and the stages at their ends are alike. -/
theorem run_alike {s s' : Stage} (h : s.Alike s') (xs : List Step) :
    (s.run xs).reports = (s'.run xs).reports ∧ (s.run xs).value.2 = (s'.run xs).value.2 ∧
      (s.run xs).value.1.Alike (s'.run xs).value.1 := by
  induction xs generalizing s s' with
  | nil => exact ⟨rfl, rfl, h⟩
  | cons x xs ih =>
    obtain ⟨hreports, hanswer, halike⟩ := step_alike h x
    obtain ⟨ihreports, ihanswers, ihalike⟩ := ih halike
    rw [run_cons, run_cons]
    exact ⟨congrArg₂ (· ++ ·) hreports ihreports, congrArg₂ (· :: ·) hanswer ihanswers, ihalike⟩

/-- A step breaks down if it is answered by a failure. -/
theorem breaks_iff {s : Stage} {x : Step} :
    x.breaks s.layout = true ↔ ∃ e, (s.step x).value.2 = .failed e := by
  cases x with
  | setOption name value =>
    rw [step]
    obtain ⟨l, result⟩ := s.lock.setOption s.host name value
    cases result <;> exact iff_of_false Bool.false_ne_true (by rintro ⟨e, ⟨⟩⟩)
  | format record =>
    rw [Step.breaks, step, lock_eq]
    cases s.layout.format record with
    | ok bytes => exact iff_of_false Bool.false_ne_true (by rintro ⟨e, ⟨⟩⟩)
    | error e => exact iff_of_true rfl ⟨e, rfl⟩
  | _ => exact iff_of_false Bool.false_ne_true (by rintro ⟨e, ⟨⟩⟩)

/-- **What poisons the lock**: a rendering that fails, and nothing mends it. -/
theorem poisoned_run_iff {s : Stage} {xs : List Step} :
    (s.run xs).value.1.poisoned = true ↔
      s.poisoned = true ∨ ∃ e, Answer.failed e ∈ (s.run xs).value.2 := by
  induction xs generalizing s with
  | nil => simp [run]
  | cons x xs ih =>
    have hpoisoned : (s.step x).value.1.poisoned = (s.poisoned || x.breaks s.layout) :=
      congrArg poisoned (s.value_step x)
    rw [run_cons]
    simp only [ih, hpoisoned, Bool.or_eq_true, breaks_iff, List.mem_cons, exists_or, or_assoc,
      @eq_comm _ (Answer.failed _)]

/-! ## Runs with renderings struck out -/

/-- A step of a run from which renderings are struck out: one that is kept, which may well be a
rendering itself, or a rendering that is struck. -/
inductive Marked where
  | keep (x : Step)
  | strike (record : Option Record)

namespace Marked

/-- The step as it is in the whole run. -/
def step : Marked → Step
  | keep x => x
  | strike record => .format record

/-- The step as it is in the run without what is struck out. -/
def kept? : Marked → Option Step
  | keep x => some x
  | strike _ => none

/-- Of the answers to a whole run, those to the steps that are kept. -/
def keptAnswers (ms : List Marked) (as : List Answer) : List Answer :=
  (ms.zip as).filterMap fun p ↦ p.1.kept?.map fun _ ↦ p.2

end Marked

/-- Rendering reports nothing and leaves the stage as it is, but for the lock. -/
theorem step_format (s : Stage) (record : Option Record) :
    (s.step (.format record)).reports = [] ∧ (s.step (.format record)).value.1.Alike s := by
  rw [step, lock_eq]
  cases s.layout.format record <;> exact ⟨rfl, rfl, rfl⟩

/-- A run without what is struck out reports the same, gets the same answers to the steps that are
kept, and ends at a stage that is alike. -/
theorem run_kept {s s' : Stage} (h : s.Alike s') (ms : List Marked) :
    let whole := s.run (ms.map Marked.step)
    let rest := s'.run (ms.filterMap Marked.kept?)
    whole.reports = rest.reports ∧ Marked.keptAnswers ms whole.value.2 = rest.value.2 ∧
      whole.value.1.Alike rest.value.1 := by
  -- The locks of the two runs part at the first failing rendering that is struck out.
  induction ms generalizing s s' with
  | nil => exact ⟨rfl, rfl, h⟩
  | cons m ms ih =>
    rw [List.map_cons, run_cons]
    cases m with
    | keep x =>
      have hkept : (Marked.keep x :: ms).filterMap Marked.kept? =
        x :: ms.filterMap Marked.kept? := rfl
      obtain ⟨hreports, hanswer, halike⟩ := step_alike h x
      obtain ⟨ihreports, ihanswers, ihalike⟩ := ih halike
      rw [hkept, run_cons]
      exact ⟨congrArg₂ (· ++ ·) hreports ihreports, congrArg₂ (· :: ·) hanswer ihanswers, ihalike⟩
    | strike record =>
      have hkept : (Marked.strike record :: ms).filterMap Marked.kept? =
        ms.filterMap Marked.kept? := rfl
      obtain ⟨hreports, hlayout, hhost⟩ := s.step_format record
      obtain ⟨ihreports, ihanswers, ihalike⟩ := ih ⟨hlayout.trans h.1, hhost.trans h.2⟩
      rw [hkept]
      exact ⟨(congrArg (· ++ _) hreports).trans ihreports, ihanswers, ihalike⟩

/-- **Rendering fails for one reason and leaves nothing behind** that could be seen.  After any
history, rendering fails exactly if there is a record, the layout is in local time, its template
shows the calendar or the clock, and the wall clock of the record is outside the calendar's range.
Every rendering that has failed so far has broken down with the lock of the layout in its hands, and
left it poisoned.  Still any renderings can be struck out of any run from there on, failing ones
among them: all other steps get the same answers, the same is reported, the layout and its host are
the same at the end, and no step that follows can tell the difference. -/
theorem rendering_only_looks (o : Layout.Origin) (host : HostZone) (xs : List Step) :
    let s := (ofOrigin host o).after xs
    (∀ record : Option Record,
      ((∃ e, s.layout.format record = .error e) ↔
        ∃ r, record = some r ∧ s.layout.utc = false ∧ s.layout.template.Timed ∧
          ¬ Representable (r.created.second + r.created.offset)) ∧
      ((∃ e, (s.step (.format record)).value.2 = .failed e) ↔
        ∃ e, s.layout.format record = .error e)) ∧
    (s.poisoned = true ↔ ∃ e, Answer.failed e ∈ ((ofOrigin host o).run xs).value.2) ∧
    ∀ ms : List Marked,
      let whole := s.run (ms.map Marked.step)
      let rest := s.run (ms.filterMap Marked.kept?)
      rest.value.2 = Marked.keptAnswers ms whole.value.2 ∧ rest.reports = whole.reports ∧
        rest.value.1.layout = whole.value.1.layout ∧ rest.value.1.host = whole.value.1.host ∧
        ∀ later : List Step,
          (rest.value.1.run later).value.2 = (whole.value.1.run later).value.2 ∧
          (rest.value.1.run later).reports = (whole.value.1.run later).reports := by
  intro s
  refine ⟨fun record ↦ ⟨?_, ?_⟩, ?_, ?_⟩
  · simp only [Layout.format_eq_error_iff, Layout.renders_iff, not_or, not_not,
      Bool.not_eq_true]
  · rw [← breaks_iff, Step.breaks]
    cases s.layout.format record with
    | ok bytes => exact iff_of_false Bool.false_ne_true (by rintro ⟨e, ⟨⟩⟩)
    | error e => exact iff_of_true rfl ⟨e, rfl⟩
  · exact poisoned_run_iff.trans (or_iff_right Bool.false_ne_true)
  · intro ms whole rest
    obtain ⟨hreports, hanswers, halike⟩ := run_kept (.refl s) ms
    refine ⟨hanswers.symm, hreports.symm, halike.1.symm, halike.2.symm, fun later ↦ ?_⟩
    obtain ⟨hlater, hsame, -⟩ := run_alike halike later
    exact ⟨hsame.symm, hlater.symm⟩

end Stage
end Logline
