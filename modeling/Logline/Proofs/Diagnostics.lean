import Logline.Diagnostics
import Logline.Proofs.Rendering

/-!
# What the diagnostic log writes

A report is written as one line, or not at all, depending on its level and on whether and for which
level the log is open.

## What is here

* `Report.line_eq` — **the line of a report**, written out; `Report.format_eq_line` says that it is
  what a layout with that pattern makes of the report.
* `Diagnostics.lines` — the lines of reports from a level on; `Diagnostics.write_closed` and
  `Diagnostics.write_open` say that this is what is written.
* `Diagnostics.written_closed` — **what is reported before the log is open is lost**.
* `Level.orInfo` and `Level.ofLoaded` — the level that the log is opened for.
* `Diagnostics.openWith_closed` and `Diagnostics.openLoading_closed` — what the first opening does,
  and what is reported before and after it.
-/

set_option autoImplicit false
namespace Logline

/-- What is only done to a value in the end reports nothing. -/
theorem Reported.reports_bind_pure {α β : Type} (x : Reported α) (f : α → β) :
    (x >>= fun a ↦ pure (f a)).reports = x.reports := List.append_nil _

/-! ## The line of a report -/

namespace Report

/-- The template of the lines, piece by piece. -/
theorem template_eq :
    template =
      ⟨Bytes.ofText "[",
        [⟨some .time, Bytes.ofText "] ["⟩, ⟨some .level, Bytes.ofText "] "⟩,
          ⟨some .component, Bytes.ofText ": "⟩, ⟨some .message, Bytes.ofText "\n"⟩]⟩ := by decide

/-- **The line of a report**: the time of day and the level in brackets, the scope, a colon, the
message, and the end of the line. -/
theorem line_eq (clock : Bytes) (r : Report) :
    r.line clock =
      Bytes.ofText "[" ++ clock ++
        Bytes.ofText ("] [" ++ r.level.label ++ "] " ++ r.scope ++ ": " ++ r.message ++ "\n") := by
  simp only [line, template_eq, Template.fill, Segment.fill, field, Bytes.ofText_append,
    List.flatMap_cons, List.flatMap_nil, Option.map_some, Option.getD_some, List.append_assoc,
    List.append_nil]

/-- The record that a report is rendered as. -/
def record (r : Report) (created : Timestamp) : Record :=
  { level := r.level, created, component := r.scope, message := r.message }

/-- The log renders its lines as any layout would that has their pattern and is in local time. -/
theorem format_eq_line (r : Report) {l : Layout} {t : Timestamp} (htemplate : l.template = template)
    (hutc : l.utc = false) (ht : Representable (t.second + t.offset)) :
    l.format (some (r.record t)) = .ok (r.line t.wallClock.clock) := by
  have hrenders : l.Renders (r.record t) := fun _ _ ↦ ht
  rw [Layout.format_some, if_pos hrenders, htemplate, hutc]
  rfl

end Report

/-! ## What is written -/

namespace Diagnostics

/-- The lines of those reports that are of a level or above it, in order. -/
def lines (t : Level) (clock : Bytes) (reports : List Report) : Bytes :=
  (reports.filter fun r ↦ decide (t ≤ r.level)).flatMap (Report.line clock)

theorem lines_singleton (t : Level) (clock : Bytes) (r : Report) :
    lines t clock [r] = if t ≤ r.level then r.line clock else [] := by
  by_cases h : t ≤ r.level
  · simp [lines, h]
  · simp [lines, h]

theorem write_closed (clock : Bytes) (reports : List Report) : closed.write clock reports = [] := by
  have h : (reports.filter fun r ↦ closed.enabled r.level) = [] :=
    List.filter_eq_nil_iff.mpr fun r _ ↦ Bool.false_ne_true
  rw [write, h]
  rfl

theorem write_open (t : Level) (clock : Bytes) (reports : List Report) :
    (Diagnostics.mk (some t)).write clock reports = lines t clock reports := rfl

/-- **What is reported before the log is open is lost**, on the way to opening it as well. -/
theorem written_closed (clock : Bytes) (turn : Turn) :
    turn.written closed clock = turn.log.write clock turn.after := by
  rw [Turn.written, write_closed, List.nil_append]

theorem written_keep (d : Diagnostics) (clock : Bytes) (reports : List Report) :
    (d.keep reports).written d clock = d.write clock reports := List.append_nil _

end Diagnostics

/-! ## Opening the log -/

/-- The level that a text names; one that names none stands for `info`. -/
def Level.orInfo (text : String) : Level := (ofText text).toOption.getD info

/-- The level of a configuration that was to be loaded; `info` if that failed. -/
def Level.ofLoaded : Except Error Config → Level
  | .ok c => orInfo c.level
  | .error _ => info

theorem Config.threshold_eq (c : Config) : c.threshold = Level.orInfo c.level := by
  delta threshold Level.orInfo
  cases Level.ofText c.level <;> rfl

/-- An empty configuration stands for the same level as a configuration that does not load. -/
theorem Config.threshold_empty : ({} : Config).threshold = .info := by decide

namespace Diagnostics

/-- The first opening names the level, if it has a configuration at hand. -/
def levelReport (l : Level) : Report := ⟨.debug, "INTERNAL", "Log level: " ++ l.name⟩

/-- The first opening always says that the log is open. -/
def readyReport : Report := ⟨.debug, "INTERNAL", "Internal logger ready"⟩

theorem openWith_closed (c : Config) :
    closed.openWith c =
      { log := ⟨some (Level.orInfo c.level)⟩
        after := [levelReport (Level.orInfo c.level), readyReport] } := by
  rw [← Config.threshold_eq]
  rfl

theorem openLoading_closed (load : Reported (Except Error Config)) :
    closed.openLoading load =
      { before := load.reports
        log := ⟨some (Level.ofLoaded load.value)⟩
        after := [readyReport] } := by
  cases hload : load.value with
  | ok c =>
    rw [Level.ofLoaded, ← Config.threshold_eq, openLoading, hload]
    rfl
  | error e =>
    rw [Level.ofLoaded, ← Config.threshold_empty, openLoading, hload]
    rfl

end Diagnostics
end Logline
