import LintLedger.Process.Tool
import LintLedger.Proofs.Audit.Deed

/-!
# The records of runs

A record says which tool ran.  The sandbox writes down the name that it was given, and every
analyzer gives it the name of its own tool, whether it runs one command line, one for each
metric, or one with a directory for the report.

Radon is run once for each of its metrics, and an audit judges all the runs by one exit code: the
greatest of theirs, but at least zero.  A run that ended with another code than zero, or whose time
was up, has a greater one and makes the whole a failure.  A run that was killed is recorded with a
smaller one, which does not show in the greatest: it counts like a run that ended with zero, even
if every run was killed.

## Main Definitions

* `Radon.recordOf` -- the record of the runs for all metrics, given what each of them came to

## Main Statements

* `Sandbox.launch_eq_record` -- what there is of a program that the sandbox ran
* `Sandbox.launch_names` -- the sandbox writes down the name that it was given
* `Radon.run_names`, `Jscpd.run_names` -- so do the analyzers that do more than call the tool
* `runTool_names` -- the record of a run carries the name of the tool
* `Radon.wentWell_merged_iff` -- when several runs went well
* `Radon.run_sandboxed` -- what running the tool in the sandbox leaves
* `Audit.receive_ran` -- the event of a run
* `Radon.finished_iff` -- which runs an audit takes for finished
* `Radon.finished_of_killed` -- four runs that were killed are among them
-/

namespace LintLedger

/-! ## Whose record a run is -/

/-- A launcher whose records carry the name that it was given. -/
def Launcher.Names (launch : Launcher) : Prop :=
  ∀ tool argv dir t run, (launch tool argv dir t).result = .ok run → run.tool = tool

/-- A program that the sandbox ran leaves the record of what it came to. -/
theorem Sandbox.launch_eq_record {x : Sandbox} {outer : Surroundings} {tool : String}
    {argv : List String} {dir : String} {t : FileTree} {run : RunRecord}
    (h : (x.launch outer tool argv dir t).result = .ok run) :
    ∃ report, run = x.record tool argv dir report := by
  unfold Sandbox.launch at h
  cases argv with
  | nil => cases h
  | cons name rest =>
    dsimp only at h
    split at h
    · cases h
    · split at h
      · cases h
      · split at h
        · cases h
        · cases h
          exact ⟨_, rfl⟩

/-- The sandbox writes down the name that it was given. -/
theorem Sandbox.launch_names (x : Sandbox) (outer : Surroundings) :
    Launcher.Names (x.launch outer) := by
  intro tool argv dir t run h
  obtain ⟨report, rfl⟩ := launch_eq_record h
  rfl

/-- The runs for all metrics are put together under the name of the tool. -/
theorem Radon.run_names {launch : Launcher} {dir target : String} {t : FileTree} {run : RunRecord}
    (h : (Radon.run launch dir target t).result = .ok run) : run.tool = Tool.radon.name := by
  unfold Radon.run at h
  generalize Radon.runMetrics launch dir target Radon.metrics t = several at h
  obtain ⟨tree, runs, takes⟩ := several
  cases runs with
  | error e => cases h
  | ok runs =>
    cases h
    rfl

theorem Jscpd.withReport_tool (t : FileTree) (dir : String) (run : RunRecord) :
    (Jscpd.withReport t dir run).tool = run.tool := by
  unfold Jscpd.withReport
  split <;> rfl

/-- The report in its directory does not change whose record it is. -/
theorem Jscpd.run_names {launch : Launcher} (hlaunch : launch.Names) {settings : JscpdSettings}
    {parent dir target : String} {t : FileTree} {run : RunRecord}
    (h : (Jscpd.run launch settings parent dir target t).result = .ok run) :
    run.tool = Tool.jscpd.name := by
  unfold Jscpd.run at h
  generalize Jscpd.makeReportDir t parent = making at h
  cases making with
  | error e => cases h
  | ok made =>
    dsimp only at h
    cases hresult : (launch Tool.jscpd.name
        (Jscpd.commandInto settings (some made.2) target) dir made.1).result with
    | error e =>
      rw [hresult] at h
      cases h
    | ok first =>
      rw [hresult] at h
      cases h
      rw [Jscpd.withReport_tool]
      exact hlaunch _ _ _ _ first hresult

/-- **The record of a run carries the name of the tool.** -/
theorem runTool_names {launch : Launcher} (hlaunch : launch.Names) {outer : Surroundings}
    {settings : ToolSettings} {tool : Tool} {target : String} {t : FileTree} {run : RunRecord}
    (h : (runTool launch outer settings tool target t).result = .ok run) :
    run.tool = tool.name := by
  unfold runTool at h
  cases tool with
  | radon => exact Radon.run_names h
  | jscpd => exact Jscpd.run_names hlaunch h
  | _ => exact hlaunch _ _ _ _ _ h

/-! ## One exit code -/

/-- A run is recorded with an exit code of at most zero if it ended with zero or was killed. -/
theorem Sandbox.exitCode_record_le_zero_iff (x : Sandbox) (tool : String) (argv : List String)
    (dir : String) (report : Machine.Report) :
    (x.record tool argv dir report).exitCode ≤ 0 ↔
      report.conclusion = .exited 0 ∨ report.conclusion = .killed := by
  obtain ⟨tree, conclusion, stdout, stderr, clock⟩ := report
  cases conclusion with
  | exited code => simp [record]
  | killed => simp [record, killedCode]
  | timeUp => simp [record, RunRecord.timeoutExit]

namespace Radon

/-- The exit code of several runs is the greatest of theirs and of zero. -/
theorem exitCode_merged_le_iff {dir : String} {runs : List (String × RunRecord)} {code : Int} :
    (merged dir runs).exitCode ≤ code ↔ 0 ≤ code ∧ ∀ r ∈ runs, r.2.exitCode ≤ code := by
  have hfold (start : Int) : runs.foldl (fun code r => max code r.2.exitCode) start ≤ code ↔
      start ≤ code ∧ ∀ r ∈ runs, r.2.exitCode ≤ code := by
    induction runs generalizing start with
    | nil => simp
    | cons r rest ih => rw [List.foldl_cons, ih, List.forall_mem_cons, Int.max_le, and_assoc]
  exact hfold 0

theorem exitCode_merged_nonneg (dir : String) (runs : List (String × RunRecord)) :
    0 ≤ (merged dir runs).exitCode :=
  (exitCode_merged_le_iff.mp (Int.le_refl _)).1

/-- Several runs went well if no exit code of theirs is above zero. -/
theorem wentWell_merged_iff {dir : String} {runs : List (String × RunRecord)} :
    Audit.wentWell analyzer (merged dir runs) = true ↔ ∀ r ∈ runs, r.2.exitCode ≤ 0 := by
  have hzero : (∀ r ∈ runs, r.2.exitCode ≤ 0) ↔ (merged dir runs).exitCode = 0 := by
    rw [Int.le_antisymm_iff, exitCode_merged_le_iff]
    simp [exitCode_merged_nonneg]
  rw [hzero, Audit.wentWell, RunRecord.timedOut, Bool.and_eq_true, Bool.not_eq_true',
    beq_eq_false_iff_ne]
  constructor
  · intro h
    exact beq_iff_eq.mp h.1
  · intro h
    rw [h]
    exact ⟨rfl, by decide⟩

/-! ## Runs in the sandbox -/

/-- The record of the run for a metric, given what it came to. -/
def recordFor (x : Sandbox) (dir target : String) (report : String → Machine.Report)
    (metric : String) : RunRecord :=
  x.record Tool.radon.name (metricCommand metric target) dir (report metric)

/-- The record of the runs for all metrics, given what each of them came to. -/
def recordOf (x : Sandbox) (dir target : String) (report : String → Machine.Report) : RunRecord :=
  merged dir (metrics.map fun metric => (metric, recordFor x dir target report metric))

variable (x : Sandbox) (dir target : String)

/-- The runs for some metrics leave one record each, unless one of them is impossible. -/
theorem runMetrics_sandboxed (outer : Surroundings) {names : List String} (hnodup : names.Nodup)
    (t : FileTree) :
    (∃ e, (runMetrics (x.launch outer) dir target names t).2.1 = .error e) ∨
      ∃ report, (runMetrics (x.launch outer) dir target names t).2.1 =
        .ok (names.map fun metric => (metric, recordFor x dir target report metric)) := by
  induction names generalizing t with
  | nil => exact .inr ⟨fun _ => ⟨t, .killed, [], [], 0⟩, rfl⟩
  | cons metric rest ih =>
    rw [List.nodup_cons] at hnodup
    unfold runMetrics
    dsimp only
    split
    · rename_i e _
      exact .inl ⟨e, rfl⟩
    · rename_i run hrun
      obtain ⟨first, rfl⟩ := Sandbox.launch_eq_record hrun
      obtain ⟨e, he⟩ | ⟨report, hreport⟩ := ih hnodup.2 _
      · exact .inl ⟨e, by rw [he]; rfl⟩
      · -- what the other runs came to says nothing of this one, whose metric is not theirs
        refine .inr ⟨Function.update report metric first, ?_⟩
        have hothers : (rest.map fun m => (m, recordFor x dir target report m)) =
            rest.map fun m =>
              (m, recordFor x dir target (Function.update report metric first) m) := by
          apply List.map_congr_left
          intro m hm
          have hne : m ≠ metric := fun h => hnodup.1 (h ▸ hm)
          rw [recordFor, recordFor, Function.update_of_ne hne]
        rw [hreport, hothers, List.map_cons]
        simp only [recordFor, Function.update_self]
        rfl

/-- Running the tool in the sandbox leaves the record of four runs, unless one of them is
impossible. -/
theorem run_sandboxed (outer : Surroundings) (t : FileTree) :
    (∃ e, (run (x.launch outer) dir target t).result = .error e) ∨
      ∃ report,
        (run (x.launch outer) dir target t).result = .ok (recordOf x dir target report) := by
  have hnodup : metrics.Nodup := by decide
  unfold run
  dsimp only
  obtain ⟨e, he⟩ | ⟨report, hreport⟩ := runMetrics_sandboxed x dir target outer hnodup t
  · exact .inl ⟨e, by rw [he]; rfl⟩
  · exact .inr ⟨report, by rw [hreport]; rfl⟩

/-- Four runs went well if each of them ended with zero or was killed. -/
theorem wentWell_recordOf_iff (settings : ToolSettings) (report : String → Machine.Report) :
    Audit.wentWell (analyzerOf settings .radon) (recordOf x dir target report) = true ↔
      ∀ metric ∈ metrics,
        (report metric).conclusion = .exited 0 ∨ (report metric).conclusion = .killed := by
  change Audit.wentWell analyzer _ = true ↔ _
  rw [recordOf, wentWell_merged_iff, List.forall_mem_map]
  apply forall₂_congr
  intro metric _
  exact Sandbox.exitCode_record_le_zero_iff x _ _ _ _

end Radon

/-! ## What an audit makes of a run -/

/-- The event of a run says whether it went well, and only a run that did is handed on. -/
theorem Audit.receive_ran (job : Job) (tool : Tool) (run : RunRecord) (m : Moment) :
    ∃ e, (receive job tool (.ran run) m).1.2.events = m.2.events ++ [e] ∧ e.tool = run.tool ∧
      (wentWell (job.analyzer tool) run = true ∧ e.kind = .finished ∧
          (receive job tool (.ran run) m).2 = .ok run ∨
        wentWell (job.analyzer tool) run = false ∧ e.kind = .failed ∧
          (receive job tool (.ran run) m).2 = .error (failureOf run)) := by
  unfold receive
  dsimp only
  split
  · rename_i hwell
    refine ⟨.ofRun job.target .finished run, ?_, rfl, .inl ⟨hwell, rfl, rfl⟩⟩
    simp [tell, Records.events, Records.add]
  · rename_i hwell
    refine ⟨{ Event.ofRun job.target .failed run with message? := some (failureOf run).message },
      ?_, rfl, .inr ⟨eq_false_of_ne_true hwell, rfl, rfl⟩⟩
    simp [tell, Records.events, Records.add]

namespace Radon

/-- **The runs for the four metrics count as finished if each of them ended with zero or was
killed.**  The sandbox leaves no other record than that of four runs, whatever each of them came
to; an audit notes one event about it, that the tool has finished or that it has failed. -/
theorem finished_iff (x : Sandbox) (settings : ToolSettings) (target : String) :
    (∀ (outer : Surroundings) (t : FileTree),
      (∃ e, (runTool (x.launch outer) outer settings .radon target t).result = .error e) ∨
        ∃ report, (runTool (x.launch outer) outer settings .radon target t).result =
          .ok (recordOf x (workingDir t outer.dir target) target report)) ∧
    ∀ (dir : String) (report : String → Machine.Report) (job : Audit.Job) (m : Audit.Moment),
      let received := Audit.receive { job with analyzer := analyzerOf settings } .radon
        (.ran (recordOf x dir target report)) m
      ∃ e, received.1.2.events = m.2.events ++ [e] ∧ e.tool = Tool.radon.name ∧
        (e.kind = .finished ∨ e.kind = .failed) ∧
        (e.kind = .finished ↔ ∃ run, received.2 = .ok run) ∧
        (e.kind = .finished ↔ ∀ metric ∈ metrics,
          (report metric).conclusion = .exited 0 ∨ (report metric).conclusion = .killed) := by
  constructor
  · intro outer t
    exact run_sandboxed x _ target outer t
  · intro dir report job m
    obtain ⟨e, hevents, htool, hwell⟩ := Audit.receive_ran
      { job with analyzer := analyzerOf settings } .radon (recordOf x dir target report) m
    refine ⟨e, hevents, htool, ?_⟩
    rw [← wentWell_recordOf_iff x dir target settings report]
    obtain ⟨hwell, hkind, hgiven⟩ | ⟨hwell, hkind, hgiven⟩ := hwell
    · rw [hkind, hgiven]
      exact ⟨.inl rfl, ⟨fun _ => ⟨_, rfl⟩, fun _ => rfl⟩, ⟨fun _ => hwell, fun _ => rfl⟩⟩
    · rw [hkind, hgiven]
      refine ⟨.inr rfl, ⟨nofun, nofun⟩, ⟨nofun, fun h => ?_⟩⟩
      exact absurd (h.symm.trans hwell) nofun

/-- Four runs that were killed, each with -1 as its exit code, are put together into a record with
zero as its exit code, which went well. -/
theorem finished_of_killed :
    let x : Sandbox := { timeout := 1000 }
    let killed (t : FileTree) : Machine.Report := ⟨t, .killed, [], [], 5⟩
    let launch : Launcher := fun tool argv dir t => ⟨t, .ok (x.record tool argv dir (killed t)), 5⟩
    (∀ metric ∈ metrics, ∀ run,
      (launch "radon" (metricCommand metric "api") "api" .empty).result = .ok run →
        run.exitCode = -1) ∧
    ∃ run, (Radon.run launch "api" "api" .empty).result = .ok run ∧ run.exitCode = 0 ∧
      Audit.wentWell (analyzerOf {} .radon) run = true := by
  intro x killed launch
  constructor
  · intro metric _ run h
    cases h
    rfl
  · exact ⟨_, rfl, rfl, rfl⟩

end Radon

end LintLedger
