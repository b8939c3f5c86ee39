import LintLedger.Decimal.Styled
import LintLedger.Report.Table
import LintLedger.Schedule.Basic

/-!
# The report of a run

After a run the program prints what became of every project: a table of the tools of a project
that was audited in this process, one line for a project that had a process of its own, and
the totals of all.  A quiet run prints the totals only.

## Main Definitions

* `Totals` -- the sums over all projects
* `reportLines` -- the lines of the report
-/

namespace LintLedger

/-- The name of the program. -/
def programName : String := "auditor"

/-- The version of the program. -/
def programVersion : String := "0.1.0"

/-- Sums over the projects of a run. -/
structure Totals where
  ok : Nat
  /-- Failed tools, and projects whose process failed. -/
  failed : Nat
  inserted : Nat
deriving DecidableEq, Repr

/-- The sums over the projects of a run. -/
def Totals.ofOutcomes (outcomes : List ProjectOutcome) : Totals :=
  let summaries := outcomes.filterMap (·.summary?)
  let childrenFailed := outcomes.filter fun o => o.summary?.isNone && o.exitCode != 0
  { ok := (summaries.map fun s => s.ok.length).foldr (· + ·) 0
    failed := (summaries.map fun s => s.failed.length).foldr (· + ·) 0 + childrenFailed.length
    inserted := (summaries.map fun s => (Assoc.values s.inserted).foldr (· + ·) 0).foldr (· + ·) 0 }

/-- Seconds with one place. -/
def seconds (x : Float) : String := Decimal.fixed 1 x ++ "s"

/-- What the table says about the end of a tool. -/
def statusText (s : Summary) (tool : String) : String :=
  match s.failed.find? tool with
  | none => if s.ok.contains tool then "✓ ok" else "- skipped"
  | some f =>
    match f.kind with
    | .failed => "✗ failed (" ++ toString f.exit ++ ")"
    | .crashed => "✗ crashed"
    | .parsingFailed => "⚠ parsing failed"

/-- A cell on the right side of its column, empty for what is absent. -/
def rightCell (text? : Option String) : TableCell := ⟨text?.getD "", .right⟩

/-- The table of the tools of a project. -/
def summaryTable (s : Summary) : Table where
  header := ["Tool", "Status", "Rows", "Inserted", "Duration"]
  rows := s.requested.map fun tool =>
    [{ text := tool }, { text := statusText s tool },
     rightCell ((s.rows.find? tool).map toString),
     rightCell ((s.inserted.find? tool).map toString),
     rightCell ((s.durations.find? tool).map seconds)]

/-- The first line of a message. -/
def firstLine (message : String) : String :=
  match Text.lines message with
  | [] => "no output"
  | line :: _ => if line = "" then "no output" else line

/-- The lines about the tools that failed, the whole message of each only if asked for. -/
def failureLines (verbose : Bool) (s : Summary) : List String :=
  if s.hasFailures then
    " [FAILED] Tools that did not complete:" ::
      s.failed.map fun (tool, f) =>
        "   " ++ tool ++ " " ++ f.kind.name ++ " (exit " ++ toString f.exit ++ "): "
          ++ (if verbose then f.message else firstLine f.message)
  else []

/-- The lines about a project that was audited in this process. -/
def summaryLines (verbose : Bool) (s : Summary) : List String :=
  [" " ++ s.target ++ " (" ++ seconds s.elapsed ++ ")"] ++ (summaryTable s).render
    ++ failureLines verbose s ++ [""]

/-- The lines about a project. -/
def outcomeLines (verbose : Bool) (o : ProjectOutcome) : List String :=
  match o.summary? with
  | some s => summaryLines verbose s
  | none =>
    [" " ++ o.project ++ " "
      ++ (if o.exitCode = 0 then "✓ ok" else "✗ exit " ++ toString o.exitCode)]

/-- The lines of the report of a run below a root. -/
def reportLines (outcomes : List ProjectOutcome) (root : String) (verbose quiet : Bool) :
    List String :=
  let totals := Totals.ofOutcomes outcomes
  if quiet then
    ["Projects: " ++ toString outcomes.length ++ "  OK: " ++ toString totals.ok ++ "  Failed: "
      ++ toString totals.failed ++ "  Inserted: " ++ toString totals.inserted]
  else
    ["", " " ++ programName ++ " v" ++ programVersion, " Audited: " ++ root, ""]
      ++ outcomes.flatMap (outcomeLines verbose)
      ++ [" " ++ toString totals.ok ++ " tool runs ok, " ++ toString totals.failed ++ " failed, "
        ++ toString totals.inserted ++ " new findings", ""]

/-- Lines as a text in which each line is ended. -/
def textOfLines (lines : List String) : String := String.join (lines.map (· ++ "\n"))

end LintLedger
