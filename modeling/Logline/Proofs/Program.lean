import Logline.Program
import Logline.Proofs.CommandLine
import Logline.Proofs.Failure
import Logline.Proofs.Request
import Logline.Proofs.Session

/-!
# Runs that render

What a run comes to that is asked to render a record: its exit, what it writes to the standard
output and what it writes to standard error.  There are three endings.  The configuration does not
load; the request is turned down; or the record is rendered.  Standard error holds diagnostics, of
the level of the configuration and above, unless the configuration itself is what is wrong.

## What is here

* `Program.selected` and `Program.loaded` — the path that the configuration is loaded from, named or
  not, and what comes of it.
* `Program.startup` and `Program.refusal` — the reports of a run about itself, in front of those
  about the configuration and behind them.
* `Program.run_eq_of_error` and `Program.run_eq_render` — a run, up to its action.
* `Program.render_of_rejected` and `Program.render_of_format` — what the action comes to.
* `Program.run_render` — **the three endings of a run**.
-/

set_option autoImplicit false
namespace Logline

/-! ## Loading the configuration -/

/-- The usual place is a path like any other, on a host that has it. -/
theorem Config.value_load (h : Host) :
    (load h).value = path h >>= fun place ↦ (loadFrom h place).value := by
  rw [load, Reported.value_bind]
  cases hpath : path h with
  | error e => rfl
  | ok place =>
    simp only [Reported.value_bind]
    change _ = (loadFrom h place).value
    cases (loadFrom h place).value <;> rfl

namespace Program

/-- The path of the configuration: the one that is named, or the usual one, which a host may not
have. -/
def selected (w : World) (i : Invocation) : Except Error String :=
  i.config.elim (Config.path w.host) .ok

/-- The configuration at that path. -/
def loaded (w : World) (i : Invocation) : Except Error Config := do
  let place ← selected w i
  (Config.loadFrom w.host place).value

theorem value_loadConfig (w : World) (i : Invocation) : (loadConfig w i).value = loaded w i := by
  rw [loadConfig, loaded, selected]
  cases i.config with
  | some place => rfl
  | none => exact Config.value_load w.host

/-! ## What a run reports -/

/-- What a run reports when its log has been opened. -/
def startup (c : Config) : List Report :=
  [Diagnostics.levelReport c.threshold, Diagnostics.readyReport]

/-- What a run reports about a request that it turns down. -/
def refusal (name : String) : Report :=
  ⟨.error, "CLI", "Cannot build layout: preset not found: " ++ name⟩

theorem openWith_eq (c : Config) :
    Diagnostics.closed.openWith c = { log := ⟨some c.threshold⟩, after := startup c } := by
  rw [Diagnostics.openWith_closed, ← Config.threshold_eq, startup]

/-- A run whose configuration does not load says so and ends.  What loading it reports is lost. -/
theorem run_eq_of_error {w : World} {i : Invocation} {e : Error} (h : loaded w i = .error e) :
    run w i = ⟨1, [], loadFailure e⟩ := by
  rw [run, value_loadConfig, h, Diagnostics.write_closed]
  rfl

/-- A run whose configuration loads opens its log and turns to its action. -/
theorem run_eq_render {w : World} {i : Invocation} {q : Request} {c : Config}
    (hi : i.action = .render q) (h : loaded w i = .ok c) :
    run w i =
      render w ⟨some c.threshold⟩ (Diagnostics.lines c.threshold w.clock (startup c)) q c := by
  rw [run, value_loadConfig, h, hi]
  simp only [Diagnostics.write_closed, Diagnostics.written_closed, openWith_eq, List.nil_append,
    Diagnostics.write_open]

end Program

theorem Diagnostics.lines_append (t : Level) (clock : Bytes) (reports later : List Report) :
    lines t clock (reports ++ later) = lines t clock reports ++ lines t clock later := by
  rw [lines, List.filter_append, List.flatMap_append, lines, lines]

/-! ## Rendering -/

namespace Program

section Render

variable (w : World) (t : Level) (written : List Report) {q : Request} {c : Config}

/-- A request that is turned down is reported, and nothing is rendered. -/
theorem render_of_rejected {name : String} (h : q.Rejected name) :
    render w ⟨some t⟩ (Diagnostics.lines t w.clock written) q c =
      ⟨1, [], Diagnostics.lines t w.clock (written ++ c.complaints ++ [refusal name])⟩ := by
  have hlayout : (q.layout w.zone c).value = .error (.presetNotFound name) :=
    Request.layout_eq_error_iff.mpr ⟨name, h, rfl⟩
  rw [render, hlayout, Request.reports_layout, Diagnostics.write_open, Diagnostics.lines_append,
    Diagnostics.lines_append]
  rfl

/-- A record that is rendered goes to the output, if that takes bytes. -/
theorem render_of_format {l : Layout} {b : Bytes} (hw : w.writable = true)
    (hl : (q.layout w.zone c).value = .ok l) (hb : l.format (some (q.record w.now)) = .ok b) :
    render w ⟨some t⟩ (Diagnostics.lines t w.clock written) q c =
      ⟨0, b, Diagnostics.lines t w.clock (written ++ c.complaints)⟩ := by
  rw [render, hl, Request.reports_layout, Diagnostics.write_open, Diagnostics.lines_append]
  simp only [hb, hw, true_or, if_true]

end Render

/-! ## Whole runs -/

/-- **The three endings of a run** that is to render a record, on any host and for any command line
that is understood, when the standard output takes bytes and the wall clock is in the calendar's
range.  What the command line says is what the run goes by: the request is taken from what stands
behind the command, and the configuration is named there, or in front of the command, or nowhere.

If the configuration at the selected path does not load, the run exits with 1 and writes nothing but
that error.  If it loads, and the request names a preset that does not exist and no pattern in its
place, the run exits with 1 and renders nothing.  Otherwise it exits with 0, and its output is the
record of the request as the layout of the request renders it, and not a byte more or less.  In the
last two cases standard error holds what is reported from the level of the configuration on, a line
each: two lines about the log itself, then one if the pattern of the configuration is empty and its
preset does not exist, then one if the request is turned down. -/
theorem run_render {w : World} (hw : w.writable = true)
    (hnow : Representable (w.now.second + w.now.offset)) {args : List String} {i : Invocation}
    {q : Request} (hargs : Invocation.read args = .ok i) (hi : i.action = .render q) :
    (∃ before behind : List Said, ∃ front back : List String,
      args = front ++ "render" :: back ∧ Command.root.Writes before front ∧
      Command.render.Writes behind back ∧ q.SaidBy behind ∧
      i.config = (Said.values "config" (behind ++ before)).head?) ∧
    (∀ e, loaded w i = .error e →
      run w i = ⟨1, [], Bytes.ofText ("Error loading config: " ++ e.message ++ "\n")⟩) ∧
    ∀ c, loaded w i = .ok c →
      let log := Diagnostics.lines c.threshold w.clock
      let reports := startup c ++ c.complaints
      (∀ name, q.Rejected name → run w i = ⟨1, [], log (reports ++ [refusal name])⟩) ∧
      ((∀ name, ¬ q.Rejected name) → ∃ l b,
        (q.layout w.zone c).value = .ok l ∧
        l.format (some
          { level := q.level, created := w.now, component := q.component, source := q.source,
            line := q.line, message := " ".intercalate q.words }) = .ok b ∧
        run w i = ⟨0, b, log reports⟩) := by
  refine ⟨Invocation.read_eq_ok_render hargs hi, fun e he ↦ run_eq_of_error he, fun c hc ↦ ?_⟩
  intro log reports
  rw [run_eq_render hi hc]
  refine ⟨fun name hname ↦ render_of_rejected w _ _ hname, fun hnone ↦ ?_⟩
  obtain ⟨l, hl⟩ : ∃ l, (q.layout w.zone c).value = .ok l :=
    ⟨_, Request.layout_eq_ok_iff.mpr ⟨hnone, rfl⟩⟩
  obtain ⟨b, hb⟩ : ∃ b, l.format (some (q.record w.now)) = .ok b :=
    ⟨_, Layout.format_eq_ok_iff.mpr ⟨fun _ _ ↦ hnow, rfl⟩⟩
  exact ⟨l, b, hl, hb, render_of_format w _ _ hw hl hb⟩

/-- A host with a configuration at its usual place that asks for all diagnostics and names a preset
that does not exist; its root is a folder, and one of its files is a secret. -/
def sample : World :=
  { host :=
      { home := some "/home/user"
        configHome := none
        read := fun path ↦
          if path = "/home/user/.config/patlog/patlog.toml" then
            .file (Bytes.ofText "general.level = 'debug'\nlayout = \x7b preset = 'fancy' \x7d")
          else if path = "/home/user/secret" then .unreadable "Permission denied (os error 13)"
          else if path = "/" then .folder else .missing
        wording := id }
    zone := ⟨7200, some "EET", by decide⟩
    now := { second := 946684800, nano := 250000000, offset := 7200 }
    clock := Bytes.ofText "02:00:00"
    breakdown := fun _ ↦ [] }

/-- The same host for a user without a home. -/
def homeless : World := { sample with host := { sample.host with home := none } }

/-- Five command lines: a folder for a configuration, a configuration that must not be read, no
place for one, a preset that does not exist, and a record with every part of its own, whose pattern
does not silence the complaint about the configuration. -/
theorem run_render_sample :
    let plain : Request := { words := ["some", "words"] }
    let unknown : Request := { preset := some "plain", words := ["some", "words"] }
    let whole : Request :=
      { pattern := some "%h %L %P %s:%N %M%", utc := true, level := .error, component := "core"
        source := "src/main.rs", line := 42, words := ["some", "words"] }
    let complaints :=
      Bytes.ofText "[02:00:00] [DEBG] INTERNAL: Log level: debug\n" ++
      Bytes.ofText "[02:00:00] [DEBG] INTERNAL: Internal logger ready\n" ++
      Bytes.ofText "[02:00:00] [WARN] CONFIG: Unknown preset 'fancy', using default\n"
    (Invocation.read ["--config=/", "render", "some", "words"] = .ok ⟨some "/", .render plain⟩ ∧
      run sample ⟨some "/", .render plain⟩ =
        ⟨1, [], Bytes.ofText "Error loading config: I/O error: Is a directory (os error 21)\n"⟩) ∧
    (Invocation.read ["--config=/", "render", "--config", "~/secret", "some", "words"] =
        .ok ⟨some "~/secret", .render plain⟩ ∧
      run sample ⟨some "~/secret", .render plain⟩ =
        ⟨1, [], Bytes.ofText "Error loading config: I/O error: Permission denied (os error 13)\n"⟩) ∧
    (Invocation.read ["render", "some", "words"] = .ok ⟨none, .render plain⟩ ∧
      run homeless ⟨none, .render plain⟩ =
        ⟨1, [], Bytes.ofText "Error loading config: config directory not found\n"⟩) ∧
    (Invocation.read ["render", "--preset", "plain", "some", "words"] =
        .ok ⟨none, .render unknown⟩ ∧
      run sample ⟨none, .render unknown⟩ = ⟨1, [], complaints ++
        Bytes.ofText "[02:00:00] [EROR] CLI: Cannot build layout: preset not found: plain\n"⟩) ∧
    Invocation.read ["render", "-p", "%h %L %P %s:%N %M%", "-lerror", "--prefix=core", "--source",
        "src/main.rs", "some", "--line", "42", "--utc", "words"] = .ok ⟨none, .render whole⟩ ∧
      run sample ⟨none, .render whole⟩ =
        ⟨0, Bytes.ofText "00 EROR core main.rs:42 some words", complaints⟩ := by
  intro plain unknown whole complaints
  have hwall : Representable (sample.now.second + sample.now.offset) := by decide
  have hread₁ : Invocation.read ["--config=/", "render", "some", "words"] =
      .ok ⟨some "/", .render plain⟩ := by decide +kernel
  have hread₂ : Invocation.read ["--config=/", "render", "--config", "~/secret", "some", "words"] =
      .ok ⟨some "~/secret", .render plain⟩ := by decide +kernel
  have hread₃ : Invocation.read ["render", "some", "words"] = .ok ⟨none, .render plain⟩ := by
    decide +kernel
  have hread₄ : Invocation.read ["render", "--preset", "plain", "some", "words"] =
      .ok ⟨none, .render unknown⟩ := by decide +kernel
  have hread₅ : Invocation.read ["render", "-p", "%h %L %P %s:%N %M%", "-lerror", "--prefix=core",
      "--source", "src/main.rs", "some", "--line", "42", "--utc", "words"] =
        .ok ⟨none, .render whole⟩ := by decide +kernel
  have hloaded : ∀ q, loaded sample ⟨none, .render q⟩ =
      .ok { level := "debug", preset := "fancy" } := fun _ ↦ by
    show (Config.path sample.host >>= fun place ↦ (Config.loadFrom sample.host place).value) = _
    decide +kernel
  refine ⟨⟨hread₁, ?_⟩, ⟨hread₂, ?_⟩, ⟨hread₃, ?_⟩, ⟨hread₄, ?_⟩, hread₅, ?_⟩
  · exact (run_render rfl hwall hread₁ rfl).2.1 (.file .isFolder) (by decide +kernel)
  · exact (run_render rfl hwall hread₂ rfl).2.1 (.file (.other "Permission denied (os error 13)"))
      (by decide +kernel)
  · exact (run_render (w := homeless) rfl hwall hread₃ rfl).2.1 .configDirNotFound
      (by decide +kernel)
  · have hrejected : unknown.Rejected "plain" := ⟨rfl, rfl, by decide⟩
    have hrun := ((run_render rfl hwall hread₄ rfl).2.2 _ (hloaded _)).1 _ hrejected
    exact hrun.trans (by decide +kernel)
  · obtain ⟨l, b, hl, hb, hrun⟩ := ((run_render rfl hwall hread₅ rfl).2.2 _ (hloaded _)).2
      fun name h ↦ by cases h.1
    have hlayout : l = Layout.ofParts sample.zone "%h %L %P %s:%N %M%" true :=
      (Request.layout_eq_ok_iff.mp hl).2.trans (by decide)
    rw [hlayout] at hb
    obtain rfl : Bytes.ofText "00 EROR core main.rs:42 some words" = b :=
      Except.ok.inj ((by decide : _ = _).symm.trans hb)
    exact hrun.trans (by decide +kernel)

end Program
end Logline
