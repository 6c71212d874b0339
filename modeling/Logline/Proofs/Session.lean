import Logline.Proofs.Diagnostics
import Logline.Session

/-!
# The diagnostic log of a process

Whatever happens in a process may report to its log, and the log may be opened at any time and more
than once.  Only the first opening counts: nothing is written before it, and from then on the
reports of the level that it has settled, and of those above it, are written line by line in the
order they are made.  The files of the host and the time of day may be others at every event.

## What is here

* `Event.opens?` — the level an event opens the log for, and `Session.diagnostics_after` — **the
  level of an open log is that of the first event that opens it**.
* `Event.calls` — what an event has to report, kind by kind.
* `Session.turn_of_open` and `Session.turn_of_closed` — what an event does to an open log and to a
  closed one.
* `Silent` and `Obeys` — what an event leads to before and after the log is opened.
* `Session.log_obeys_first_opening` — **the log obeys its first opening**, at every event of every
  run.
-/

set_option autoImplicit false
namespace Logline

/-! ## What is reported -/

/-- What a configuration has to report when its pattern is asked for. -/
def Config.complaints (c : Config) : List Report :=
  if c.pattern = "" ∧ Preset.pattern? c.preset = none then
    [⟨.warning, "CONFIG", "Unknown preset '" ++ c.preset ++ "', using default"⟩]
  else []

theorem Config.reports_effectivePattern (c : Config) :
    c.effectivePattern.reports = c.complaints := by
  rw [effectivePattern, complaints]
  by_cases hpattern : c.pattern = ""
  · rw [if_neg (not_not_intro hpattern)]
    cases hpreset : Preset.pattern? c.preset with
    | some pattern => rw [if_neg fun h ↦ Option.some_ne_none pattern h.2]; rfl
    | none => rw [if_pos ⟨hpattern, rfl⟩]; rfl
  · rw [if_pos hpattern, if_neg fun h ↦ hpattern h.1]
    rfl

theorem Request.reports_layout (zone : HostZone) (q : Request) (c : Config) :
    (q.layout zone c).reports = c.complaints := by
  rw [layout, Reported.reports_bind_pure, Layout.ofConfig, Reported.reports_bind_pure,
    Config.reports_effectivePattern]

/-- What a layout has to report when an option is set and the caller does not ask for errors: that
it is ignored, if it is. -/
def Layout.warnings (host : HostZone) (l : Layout) (name : String) (value : Json) : List Report :=
  match (l.setOption host name value).2 with
  | .ok () => []
  | .error e => [⟨.warning, "LAYOUT", "Ignoring option " ++ name ++ ": " ++ e.message⟩]

theorem Layout.reports_trySetOption (host : HostZone) (l : Layout) (name : String) (value : Json) :
    (l.trySetOption host name value).reports = l.warnings host name value := by
  rw [trySetOption, warnings]
  obtain ⟨l', result⟩ := l.setOption host name value
  cases result <;> rfl

/-- What a step of a layout in use has to report. -/
def Stage.calls (s : Stage) : Step → List Report
  | .trySetOption name value => s.layout.warnings s.host name value
  | _ => []

theorem Stage.reports_step (s : Stage) (x : Step) : (s.step x).reports = s.calls x := by
  cases x with
  | setOption name value =>
    rw [step]
    obtain ⟨l, result⟩ := s.lock.setOption s.host name value
    cases result <;> rfl
  | trySetOption name value =>
    rw [step, lock_eq, Reported.reports_bind_pure, Layout.reports_trySetOption, calls]
  | format record =>
    rw [step]
    cases s.lock.format record <;> rfl
  | setPattern pattern => rfl
  | setUtc utc => rfl
  | template => rfl
  | moveHost host => rfl

namespace Session

namespace Event

/-- The level that an event opens the log for, if the log is still closed. -/
def opens? (e : Event) : Option Level :=
  match e.step with
  | .openWith c => some (Level.orInfo c.level)
  | .openLoading => some (Level.ofLoaded (Config.load e.host).value)
  | _ => none

/-- What the event reports about itself if it is the one that opens the log. -/
def greeting (e : Event) : List Report :=
  match e.step with
  | .openWith c =>
    [Diagnostics.levelReport (Level.orInfo c.level), Diagnostics.readyReport]
  | .openLoading => [Diagnostics.readyReport]
  | _ => []

/-- What an event reports in a process with an open log, whose layout is at `stage`. -/
def calls (stage : Stage) (e : Event) : List Report :=
  match e.step with
  | .report r => [r]
  | .layout x => stage.calls x
  | .enabled _ | .openLoading | .openWith _ => []
  | .effectivePattern c | .buildLayout _ c => c.complaints
  | .load => (Config.load e.host).reports
  | .loadFrom path => (Config.loadFrom e.host path).reports

end Event

/-- The session after some events. -/
def after (s : Session) (es : List Event) : Session := es.foldl (fun s e ↦ (s.react e).session) s

theorem run_append (s : Session) (es later : List Event) :
    s.run (es ++ later) = s.run es ++ (s.after es).run later := by
  induction es generalizing s with
  | nil => rfl
  | cons e es ih =>
    rw [List.cons_append, run, run, ih]
    rfl

/-! ## One event -/

/-- **What an event does to an open log**: it reports what it has to say. -/
theorem turn_of_open {s : Session} {t : Level} (hs : s.diagnostics = ⟨some t⟩) (e : Event) :
    (s.perform e.host e.step).turn = s.diagnostics.keep (e.calls s.stage) := by
  obtain ⟨host, clock, step⟩ := e
  rw [Event.calls]
  cases step with
  | layout x =>
    rw [perform, keepingLog, Reported.reports_bind_pure, Stage.reports_step]
  | enabled l => rfl
  | report r => rfl
  | openLoading => rw [perform, hs]; rfl
  | openWith c => rw [perform, hs]; rfl
  | effectivePattern c =>
    rw [perform, keepingLog, Reported.reports_bind_pure, Config.reports_effectivePattern]
  | load => rw [perform, keepingLog, Reported.reports_bind_pure]
  | loadFrom path => rw [perform, keepingLog, Reported.reports_bind_pure]
  | buildLayout q c =>
    rw [perform, keepingLog, Reported.reports_bind, Request.reports_layout]
    cases (q.layout s.stage.host c).value <;>
      exact congrArg s.diagnostics.keep (List.append_nil _)

/-- **What an event does to a closed log**: it opens it or leaves it closed, and reports nothing
afterwards but its own opening. -/
theorem turn_of_closed {s : Session} (hs : s.diagnostics = .closed) (e : Event) :
    (s.perform e.host e.step).turn.log = ⟨e.opens?⟩ ∧
      (s.perform e.host e.step).turn.after = e.greeting := by
  obtain ⟨host, clock, step⟩ := e
  cases step with
  | openLoading =>
    rw [perform, hs, Diagnostics.openLoading_closed]
    exact ⟨rfl, rfl⟩
  | openWith c =>
    rw [perform, hs, Diagnostics.openWith_closed]
    exact ⟨rfl, rfl⟩
  | _ => exact ⟨hs, rfl⟩

/-- The log after an event: an open log stays as it is, and a closed one is opened by an event that
does so. -/
theorem diagnostics_react (s : Session) (e : Event) :
    (s.react e).session.diagnostics = ⟨s.diagnostics.threshold.or e.opens?⟩ := by
  cases hs : s.diagnostics.threshold with
  | some t =>
    have hopen : s.diagnostics = ⟨some t⟩ := congrArg Diagnostics.mk hs
    have hturn := congrArg Diagnostics.Turn.log (turn_of_open hopen e)
    exact hturn.trans (hopen.trans rfl)
  | none => exact (turn_of_closed (congrArg Diagnostics.mk hs) e).1

/-! ## The log after a run -/

/-- **The level of an open log** is that of the first event that opens it. -/
theorem diagnostics_after (s : Session) (es : List Event) :
    (s.after es).diagnostics = ⟨s.diagnostics.threshold.or (es.findSome? Event.opens?)⟩ := by
  -- The log of `s` is arbitrary: one that is open absorbs whatever the later events open it for.
  induction es generalizing s with
  | nil => exact congrArg Diagnostics.mk (Option.or_none).symm
  | cons e es ih =>
    rw [after, List.foldl_cons, ← after, ih, diagnostics_react, List.findSome?_cons,
      Option.or_assoc]
    cases e.opens? <;> rfl

/-! ## What an event leads to -/

/-- What comes of an event before which the log has not been opened: nothing is enabled, and nothing
is written but what the first opening has to say for itself. -/
structure Silent (e : Event) (o : Outcome) : Prop where
  enabled : ∀ l, e.step = .enabled l → o.answer = .flag false
  written : e.opens? = none → o.written = []
  opening : ∀ t, e.opens? = some t →
    o.session.diagnostics = ⟨some t⟩ ∧ o.written = Diagnostics.lines t e.clock e.greeting

/-- What comes of an event in the session `s`, whose log has been opened for the level `t`: the
level is still `t` afterwards, all reports from it on are written, one line each and in order, and
opening the log again changes and writes nothing. -/
structure Obeys (t : Level) (s : Session) (e : Event) (o : Outcome) : Prop where
  enabled : ∀ l, e.step = .enabled l → o.answer = .flag (decide (t ≤ l))
  report : ∀ r, e.step = .report r → o.written = if t ≤ r.level then r.line e.clock else []
  refused : ∀ name value err, e.step = .layout (.trySetOption name value) →
    (s.stage.layout.setOption s.stage.host name value).2 = .error err →
    o.written = if t ≤ .warning then Report.line e.clock
      ⟨.warning, "LAYOUT", "Ignoring option " ++ name ++ ": " ++ err.message⟩ else []
  written : o.written = Diagnostics.lines t e.clock (e.calls s.stage)
  reopened : e.opens? ≠ none → o.session = s ∧ o.written = []
  session : o.session.diagnostics = ⟨some t⟩

theorem answer_enabled {s : Session} {e : Event} {l : Level} (he : e.step = .enabled l) :
    (s.react e).answer = .flag (s.diagnostics.enabled l) := by
  rw [react, he]
  rfl

theorem silent_react {s : Session} (hs : s.diagnostics = .closed) (e : Event) :
    Silent e (s.react e) := by
  obtain ⟨hlog, hafter⟩ := turn_of_closed hs e
  have hwritten : (s.react e).written = Diagnostics.write ⟨e.opens?⟩ e.clock e.greeting := by
    rw [react, hs, Diagnostics.written_closed, ← hlog, ← hafter]
  refine ⟨fun l he ↦ ?_, fun hnone ↦ ?_, fun t ht ↦ ⟨hlog.trans (congrArg Diagnostics.mk ht), ?_⟩⟩
  · rw [answer_enabled he, hs]
    rfl
  · rw [hwritten, hnone]
    exact Diagnostics.write_closed _ _
  · rw [hwritten, ht, Diagnostics.write_open]

/-- Opening an open log changes nothing, neither the log nor anything else. -/
theorem reopened_react {s : Session} {t : Level} (hs : s.diagnostics = ⟨some t⟩) {e : Event}
    (hopens : e.opens? ≠ none) : (s.react e).session = s ∧ (s.react e).written = [] := by
  obtain ⟨host, clock, step⟩ := e
  obtain ⟨stage, diagnostics⟩ := s
  subst hs
  cases step with
  | openLoading => exact ⟨rfl, rfl⟩
  | openWith c => exact ⟨rfl, rfl⟩
  | _ => exact absurd rfl hopens

theorem obeys_react {s : Session} {t : Level} (hs : s.diagnostics = ⟨some t⟩) (e : Event) :
    Obeys t s e (s.react e) := by
  have hafter : (s.react e).session.diagnostics = ⟨some t⟩ :=
    (s.diagnostics_react e).trans (by rw [hs]; rfl)
  have hwritten : (s.react e).written = Diagnostics.lines t e.clock (e.calls s.stage) := by
    rw [react, turn_of_open hs, Diagnostics.written_keep, hs, Diagnostics.write_open]
  refine
    { enabled := fun l he ↦ ?_, report := fun r he ↦ ?_, refused := fun name value err he herr ↦ ?_,
      written := hwritten, reopened := fun hopens ↦ ?_, session := hafter }
  · rw [answer_enabled he, hs]
    rfl
  · rw [hwritten, Event.calls, he, Diagnostics.lines_singleton]
  · rw [hwritten, Event.calls, he]
    simp only [Stage.calls, Layout.warnings, herr, Diagnostics.lines_singleton]
  · exact reopened_react hs hopens

/-- **The log obeys its first opening.**  Take any run of a process that starts with a closed log,
and any event in it.  As long as no event before it opens the log, nothing is enabled and nothing is
written; only the first opening may write, and that only about itself.  Once an event has opened the
log, the level that it opened it for holds for every event to come: what is reported from that level
on is written, a line each, and nothing else is.  The line of a report is what a layout of its own
pattern makes of it, in local time and on any clock that the calendar reaches. -/
theorem log_obeys_first_opening (stage : Stage) (before : List Event) (e : Event)
    (later : List Event) :
    let start : Session := { stage }
    let s := start.after before
    let o := s.react e
    start.run (before ++ e :: later) = start.run before ++ o :: o.session.run later ∧
    (match before.findSome? Event.opens? with
      | none => Silent e o
      | some t => Obeys t s e o) ∧
    (∀ (clock : Bytes) (r : Report), r.line clock =
      Bytes.ofText "[" ++ clock ++
        Bytes.ofText ("] [" ++ r.level.label ++ "] " ++ r.scope ++ ": " ++ r.message ++ "\n")) ∧
    ∀ (r : Report) (host : HostZone) (now : Timestamp), Representable (now.second + now.offset) →
      (Layout.ofPattern host "[%T] [%L] %P: %M\n").format (some (r.record now)) =
        .ok (r.line now.wallClock.clock) := by
  intro start s o
  refine ⟨run_append start before (e :: later), ?_, Report.line_eq, fun r host now hnow ↦
    r.format_eq_line (congrArg Template.parse (if_neg (by decide))) rfl hnow⟩
  have hs : s.diagnostics = ⟨before.findSome? Event.opens?⟩ := start.diagnostics_after before
  cases hfirst : before.findSome? Event.opens? with
  | none => exact silent_react (hs.trans (congrArg Diagnostics.mk hfirst)) e
  | some t => exact obeys_react (hs.trans (congrArg Diagnostics.mk hfirst)) e

end Session
end Logline
