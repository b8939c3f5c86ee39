import LintLedger.Analyzer.Registry
import LintLedger.Process.Sandbox
import LintLedger.Text.Quoted

/-!
# Running an analyzer's tool

Most tools are run with one command line.  Radon is run once for each of its metrics, and the
runs are put together into one record.  Jscpd writes its report into a directory, which is made
for the run and removed after it.

## Main Definitions

* `Radon.merged` -- the record of several runs
* `runTool` -- a tool run on a target by a launcher
-/

namespace LintLedger

/-! ## One run for each metric -/

namespace Radon

/-- The words on standard error of the run for a metric, if there are any. -/
def errorLine? (metric : String) (run : RunRecord) : Option String :=
  if Text.isBlankText run.stderr then none
  else some ("[" ++ metric ++ "] " ++ Text.trim run.stderr)

/-- The record of one run for each of some metrics: the greatest exit code, but at least zero,
and a document with one section for each metric. -/
def merged (dir : String) (runs : List (String × RunRecord)) : RunRecord :=
  let payload : Json := .obj (Assoc.ofList (runs.map fun (metric, run) =>
    (metric, run.payload?.getD (.obj []))))
  { tool := Tool.radon.name
    cmd := runs.map fun r => " ".intercalate r.2.cmd
    cwd := dir
    exitCode := runs.foldl (fun code r => max code r.2.exitCode) 0
    duration := runs.foldl (fun sum r => sum + r.2.duration) 0.0
    stdout := payload.render
    stderr := "\n".intercalate (runs.filterMap fun r => errorLine? r.1 r.2)
    payload? := some payload }

/-- Runs the tool for metrics one after the other, up to the first that cannot be run. -/
def runMetrics (launch : Launcher) (dir target : String) :
    List String → FileTree → FileTree × Except ProcessError (List (String × RunRecord)) × Nat
  | [], t => (t, .ok [], 0)
  | metric :: rest, t =>
    let first := launch Tool.radon.name (metricCommand metric target) dir t
    match first.result with
    | .error e => (first.tree, .error e, first.milliseconds)
    | .ok run =>
      let (t', others, takes) := runMetrics launch dir target rest first.tree
      (t', others.map fun runs => (metric, run) :: runs, first.milliseconds + takes)

/-- Runs the tool for all metrics. -/
def run (launch : Launcher) (dir target : String) (t : FileTree) : Attempt :=
  let (t', runs, takes) := runMetrics launch dir target metrics t
  ⟨t', runs.map (merged dir), takes⟩

end Radon

/-! ## A report in a directory -/

namespace Jscpd

/-- The name of the report in its directory. -/
def reportFile : String := "jscpd-report.json"

/-- The name of a report directory by its number. -/
def reportDir (number : Nat) : String :=
  let digits := toString number
  "jscpd-" ++ "".pushn '0' (6 - digits.length) ++ digits

/-- The first path among some numbers that means nothing yet. -/
def freePath? (t : FileTree) (parent : String) (numbers : List Nat) : Option String :=
  (numbers.map fun n => Path.join parent (reportDir n)).find? fun path => !t.exists? path

/-- How many report directories there may be at once. -/
def reportDirLimit : Nat := 1000

/-- Makes a report directory below a directory for such things. -/
def makeReportDir (t : FileTree) (parent : String) : Except ProcessError (FileTree × String) :=
  let refused (path : String) (e : FileError) : ProcessError :=
    .failed ("jscpd report dir: " ++ e.message ++ " at path " ++ Text.quoted path)
  match freePath? t parent (List.range reportDirLimit) with
  | none => .error (refused parent .alreadyThere)
  | some path =>
    if !t.isDir parent then .error (refused path .missing)
    else
      match t.makeDirs path with
      | .ok t' => .ok (t', path)
      | .error e => .error (refused path e)

/-- The tree without a directory. -/
def removeDir (t : FileTree) (path : String) : FileTree :=
  match t.locateLink path with
  | .ok place => Node.remove place t
  | .error _ => t

/-- A record with the report as its document, unless it has one already. -/
def withReport (t : FileTree) (dir : String) (run : RunRecord) : RunRecord :=
  match run.payload? with
  | some _ => run
  | none => { run with payload? := (t.readText? (Path.join dir reportFile)).bind Json.parse? }

/-- Runs the tool with a report directory below `parent`. -/
def run (launch : Launcher) (settings : JscpdSettings) (parent dir target : String)
    (t : FileTree) : Attempt :=
  match makeReportDir t parent with
  | .error e => ⟨t, .error e, 0⟩
  | .ok (made, reports) =>
    let attempt := launch Tool.jscpd.name (commandInto settings (some reports) target) dir made
    { attempt with
        tree := removeDir attempt.tree reports
        result := attempt.result.map (withReport attempt.tree reports) }

end Jscpd

/-! ## Any tool -/

/-- The directory for what is needed only for a while. -/
def scratchDir (outer : Surroundings) : String :=
  Path.join outer.dir ((outer.environment.find? "TMPDIR").getD "/tmp")

/-- Runs a tool on a target. -/
def runTool (launch : Launcher) (outer : Surroundings) (settings : ToolSettings) (tool : Tool)
    (target : String) (t : FileTree) : Attempt :=
  let dir := workingDir t outer.dir target
  match tool with
  | .radon => Radon.run launch dir target t
  | .jscpd => Jscpd.run launch settings.jscpd (scratchDir outer) dir target t
  | tool => launch tool.name ((analyzerOf settings tool).command target) dir t

end LintLedger
