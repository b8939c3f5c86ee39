import LintLedger.Finding
import LintLedger.Json.Reading
import LintLedger.PathContext

/-!
# Analyzers

An analyzer is what the program knows about one tool: how to call it, which exit codes mean
that it ran well, and how its report becomes findings.

## Main Definitions

* `ReportFault` -- why a report could not be read
* `Analyzer` -- the knowledge about one tool
* `acceptsFoundSomething` -- the exit codes most tools end with
-/

namespace LintLedger

/-- Why a report could not be read. -/
inductive ReportFault where
  /-- The reader refused the report. -/
  | refused (message : String)
  /-- The reader itself broke down. -/
  | broken
deriving DecidableEq, Repr

/-- What is known about one tool. -/
structure Analyzer where
  tool : Tool
  /-- The command line for a target. -/
  command : String → List String
  /-- Whether an exit code means that the tool ran well. -/
  accepts : Int → Bool
  /-- Whether the report reader uses the complexity document of the same audit, in which case
  it waits for the tool that provides one. -/
  usesComplexity : Bool
  /-- Whether the payload of the tool is the complexity document. -/
  providesComplexity : Bool
  /-- The findings of a run, in the order of the report. -/
  read : RunRecord → PathContext → Except ReportFault (List Finding)

namespace Analyzer

/-- Exit codes of a tool that ends with one when it found something. -/
def acceptsFoundSomething (code : Int) : Bool := code == 0 || code == 1

/-- An analyzer whose reader takes every report, apart from complexity. -/
def plain (tool : Tool) (command : String → List String)
    (findings : RunRecord → PathContext → List Finding) : Analyzer where
  tool := tool
  command := command
  accepts := acceptsFoundSomething
  usesComplexity := false
  providesComplexity := false
  read := fun run ctx => .ok (findings run ctx)

/-- The name of the tool. -/
def name (a : Analyzer) : String := a.tool.name

end Analyzer

/-- The document of a run, null if it has none. -/
def RunRecord.document (run : RunRecord) : Json := run.report?.getD .null

end LintLedger
