import Logline.Proofs.Program

/-!
# Runs whose output is lost

The standard output of a run may take nothing, as a full device does.  This file compares such a run
with the run of the same command line whose output is taken.  A run that has nothing to write does
not notice the difference.  A run that renders a record and has something to write reports the
failure and exits with 1, as it does for any other error.  The two lists of help are printed by
means that know of no failure, and the run breaks down.

## What is here

* `World.withOutput` — the same surroundings with an output that takes bytes, or one that does not.
* `Action.lost` — how a run ends that has something to write and cannot.
* `Program.run_without_output` — a run without an output in terms of the run with one.
* `Program.Copes` — to handle the loss of the output as one failure among others.
* `Program.copes_iff` — **the runs that handle the loss of their output**, and how every run ends.
* `Program.not_copes_presets` — the list of presets is not one of them.
-/

set_option autoImplicit false
namespace Logline

/-- The same surroundings with an output that takes bytes, or with one that does not. -/
def World.withOutput (w : World) (writable : Bool) : World := { w with writable }

/-- What a run reports about an output that takes nothing. -/
def Program.writeFailure : Report :=
  ⟨.error, "CLI", "Write failed: No space left on device (os error 28)"⟩

/-- How an action ends that has something to write and cannot: `written` is on standard error before
that, and `log` makes lines of reports.  What the runtime says to a breakdown is up to it. -/
def Action.lost (w : World) (log : List Report → Bytes) (written : Bytes) : Action → Finish
  | .render _ => ⟨1, [], written ++ log [Program.writeFailure]⟩
  | a => ⟨Program.crashExit, [], written ++ w.breakdown a⟩

theorem Action.exit_lost_iff {w : World} {log : List Report → Bytes} {written : Bytes}
    {a : Action} : (a.lost w log written).exit = 1 ↔ ∃ q, a = .render q := by
  cases a with
  | render q => exact iff_of_true rfl ⟨q, rfl⟩
  | presets | codes => exact iff_of_false (by decide : Program.crashExit ≠ 1) (by rintro ⟨q, ⟨⟩⟩)

namespace Program

/-! ## The two ways to write -/

section

variable (w : World) (t : Level) (written : List Report)

/-- Help that is not taken ends the run at once. -/
theorem print_without_output (a : Action) (before : Bytes) {help : Bytes} (h : help ≠ []) :
    let run (writable : Bool) := print (w.withOutput writable) a before help
    run false = if (run true).stdout = [] then run true
      else ⟨crashExit, [], (run true).stderr ++ w.breakdown a⟩ :=
  (if_neg h).symm

/-- A record that is rendered to nothing is not missed; the loss of any other one is reported. -/
theorem render_without_output (q : Request) (c : Config) :
    let run (writable : Bool) := render (w.withOutput writable) ⟨some t⟩
      (Diagnostics.lines t w.clock written) q c
    run false = if (run true).stdout = [] then run true
      else (Action.render q).lost w (Diagnostics.lines t w.clock) (run true).stderr := by
  simp only [render, World.withOutput]
  cases (q.layout w.zone c).value with
  | error e => rfl
  | ok layout =>
    simp only
    cases layout.format (some (q.record w.now)) with
    | error e => rfl
    | ok bytes =>
      by_cases h : bytes = []
      · simp only [h, or_true, if_true]
      · simp only [h, or_false, if_true, if_false, Bool.false_eq_true]
        rfl

/-- A run that renders a record breaks down on none, as long as the wall clock is in the calendar's
range. -/
theorem exit_render {q : Request} {c : Config} (hw : w.writable = true)
    (hnow : Representable (w.now.second + w.now.offset)) :
    let finish := render w ⟨some t⟩ (Diagnostics.lines t w.clock written) q c
    finish.exit = 0 ∨ finish.exit = 1 := by
  by_cases hrejected : ∃ name, q.Rejected name
  · obtain ⟨name, hname⟩ := hrejected
    rw [render_of_rejected w t written hname]
    exact .inr rfl
  · obtain ⟨l, hl⟩ : ∃ l, (q.layout w.zone c).value = .ok l :=
      ⟨_, Request.layout_eq_ok_iff.mpr ⟨fun name h ↦ hrejected ⟨name, h⟩, rfl⟩⟩
    obtain ⟨b, hb⟩ : ∃ b, l.format (some (q.record w.now)) = .ok b :=
      ⟨_, Layout.format_eq_ok_iff.mpr ⟨fun _ _ ↦ hnow, rfl⟩⟩
    rw [render_of_format w t written hw hl hb]
    exact .inl rfl

end

theorem presets_ne_nil : presets ≠ [] := by decide +kernel

theorem codes_ne_nil : codes ≠ [] := by decide +kernel

/-- A run whose configuration loads and that lists something prints the list. -/
theorem run_eq_print {w : World} {i : Invocation} {c : Config} (h : loaded w i = .ok c) :
    let written := Diagnostics.lines c.threshold w.clock (startup c)
    (i.action = .presets → run w i = print w .presets written presets) ∧
      (i.action = .codes → run w i = print w .codes written codes) := by
  intro written
  constructor
  all_goals
    intro hi
    rw [run, value_loadConfig, h, hi]
    simp only [Diagnostics.write_closed, Diagnostics.written_closed, openWith_eq, List.nil_append,
      Diagnostics.write_open]
    rfl

/-! ## Whole runs -/

section

variable {w : World} {i : Invocation} {c : Config}

/-- **A run without an output**, in terms of the run with one. -/
theorem run_without_output (h : loaded w i = .ok c) :
    let whole := run (w.withOutput true) i
    run (w.withOutput false) i =
      if whole.stdout = [] then whole
      else i.action.lost w (Diagnostics.lines c.threshold w.clock) whole.stderr := by
  intro whole
  have hload : ∀ writable, loaded (w.withOutput writable) i = .ok c := fun _ ↦ h
  cases hi : i.action with
  | render q =>
    simp only [whole, run_eq_render hi (hload _)]
    exact render_without_output w c.threshold (startup c) q c
  | presets =>
    simp only [whole, (run_eq_print (hload _)).1 hi]
    exact print_without_output w _ _ presets_ne_nil
  | codes =>
    simp only [whole, (run_eq_print (hload _)).2 hi]
    exact print_without_output w _ _ codes_ne_nil

/-- Only a run that renders can have nothing to write, and that run does not break down. -/
theorem render_of_stdout_eq_nil (h : loaded w i = .ok c)
    (hw : w.writable = true) (hnow : Representable (w.now.second + w.now.offset))
    (hempty : (run w i).stdout = []) :
    (∃ q, i.action = .render q) ∧ ((run w i).exit = 0 ∨ (run w i).exit = 1) := by
  cases hi : i.action with
  | render q =>
    rw [run_eq_render hi h]
    exact ⟨⟨q, rfl⟩, exit_render w c.threshold (startup c) hw hnow⟩
  | presets =>
    rw [(run_eq_print h).1 hi, print, if_pos hw] at hempty
    exact absurd hempty presets_ne_nil
  | codes =>
    rw [(run_eq_print h).2 hi, print, if_pos hw] at hempty
    exact absurd hempty codes_ne_nil

end

/-- A run copes with the loss of its output if it does not break down, and tells by its exit whether
anything was lost: it exits with 1 if it has anything to write, and with 0 only if it has not. -/
def Copes (w : World) (i : Invocation) : Prop :=
  let whole := run (w.withOutput true) i
  let cut := run (w.withOutput false) i
  (cut.exit = 0 ∨ cut.exit = 1) ∧ (whole.stdout ≠ [] → cut.exit = 1) ∧
    (cut.exit = 0 → whole.stdout = [])

/-- **The runs that handle the loss of their output** are those that render a record, whatever the
command line and the configuration, as long as the wall clock is in the calendar's range.  A run
that has nothing to write is the same with and without an output.  Otherwise, a run that renders a
record exits with 1 and reports the loss behind everything else that it reports, if the level of the
configuration lets it; and a run that lists the presets or the codes breaks down. -/
theorem copes_iff {w : World} {i : Invocation} {c : Config} (h : loaded w i = .ok c)
    (hnow : Representable (w.now.second + w.now.offset)) :
    let whole := run (w.withOutput true) i
    let cut := run (w.withOutput false) i
    (Copes w i ↔ ∃ q, i.action = .render q) ∧
      cut = if whole.stdout = [] then whole
        else i.action.lost w (Diagnostics.lines c.threshold w.clock) whole.stderr := by
  intro whole cut
  have hcut : cut = if whole.stdout = [] then whole
      else i.action.lost w (Diagnostics.lines c.threshold w.clock) whole.stderr :=
    run_without_output h
  refine ⟨?_, hcut⟩
  by_cases hempty : whole.stdout = []
  · rw [if_pos hempty] at hcut
    obtain ⟨hrender, hexit⟩ := render_of_stdout_eq_nil (w := w.withOutput true) h rfl hnow hempty
    refine iff_of_true ⟨?_, fun hne ↦ absurd hempty hne, fun _ ↦ hempty⟩ hrender
    rw [show run (w.withOutput false) i = whole from hcut]
    exact hexit
  · rw [if_neg hempty] at hcut
    rw [← Action.exit_lost_iff, ← hcut]
    exact ⟨fun hcopes ↦ hcopes.2.1 hempty, fun hexit ↦ ⟨.inr hexit, fun _ ↦ hexit,
      fun hzero ↦ absurd (hexit.symm.trans hzero) (by decide)⟩⟩

/-- A host without any files. -/
def bareWorld : World :=
  { host :=
      { home := some "/home/user", configHome := none, read := fun _ ↦ .missing, wording := id }
    zone := .universal
    now := .epoch
    clock := Bytes.ofText "00:00:00"
    breakdown := fun _ ↦
      Bytes.ofText "failed printing to stdout: No space left on device (os error 28)\n" }

theorem loaded_bareWorld (a : Action) : loaded bareWorld ⟨none, a⟩ = .ok {} := by
  change Config.path bareWorld.host >>=
    (fun place ↦ (Config.loadFrom bareWorld.host place).value) = _
  decide +kernel

/-- Two command lines where there is no configuration: a record with a pattern of its own, whose
loss is reported, and the list of codes, which breaks the run down. -/
theorem copes_iff_sample :
    let record : Invocation := ⟨none, .render { pattern := some "%M%n", words := ["lost"] }⟩
    let list : Invocation := ⟨none, .codes⟩
    (Copes bareWorld record ∧ run (bareWorld.withOutput false) record = ⟨1, [], Bytes.ofText
      "[00:00:00] [EROR] CLI: Write failed: No space left on device (os error 28)\n"⟩) ∧
    ¬ Copes bareWorld list ∧ (run (bareWorld.withOutput false) list).exit = 101 := by
  intro record list
  have hwall : Representable (bareWorld.now.second + bareWorld.now.offset) := by decide
  obtain ⟨hrecord, hcut⟩ := copes_iff (loaded_bareWorld record.action) hwall
  obtain ⟨hlist, hbroken⟩ := copes_iff (loaded_bareWorld list.action) hwall
  refine ⟨⟨hrecord.mpr ⟨_, rfl⟩, hcut.trans (by decide +kernel)⟩, ?_, ?_⟩
  · rw [hlist]
    rintro ⟨q, ⟨⟩⟩
  · exact (congrArg Finish.exit hbroken).trans (by decide +kernel)

/-- The list of presets breaks the run down when the standard output takes nothing. -/
theorem not_copes_presets :
    Invocation.read ["presets"] = .ok ⟨none, .presets⟩ ∧
      run (bareWorld.withOutput false) ⟨none, .presets⟩ =
        ⟨101, [], bareWorld.breakdown .presets⟩ ∧
    ¬ ∀ (w : World) (args : List String) (i : Invocation) (c : Config),
      Invocation.read args = .ok i → loaded w i = .ok c → Copes w i := by
  have hread : Invocation.read ["presets"] = .ok ⟨none, .presets⟩ := by decide +kernel
  have hsilent : Diagnostics.lines (Config.threshold {}) (bareWorld.withOutput false).clock
      (startup {}) = [] := by decide +kernel
  have hfull : ¬ (bareWorld.withOutput false).writable = true := Bool.false_ne_true
  have hrun : run (bareWorld.withOutput false) ⟨none, .presets⟩ =
      ⟨101, [], bareWorld.breakdown .presets⟩ := by
    rw [(run_eq_print (w := bareWorld.withOutput false) (loaded_bareWorld .presets)).1 rfl, print,
      if_neg hfull, hsilent, crash, List.nil_append, crashExit]
    rfl
  refine ⟨hread, hrun, fun hall ↦ ?_⟩
  obtain ⟨hexit, -, -⟩ := hall bareWorld ["presets"] ⟨none, .presets⟩ {} hread
    (loaded_bareWorld .presets)
  rw [hrun] at hexit
  exact absurd hexit (by decide)

end Program
end Logline
