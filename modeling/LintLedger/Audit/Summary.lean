import LintLedger.Analyzer.Registry
import LintLedger.Store.Basic

/-!
# Summaries of audits

What an audit of one project came to: which tools went well, which did not and why, how long
each took and how many findings each brought.

## Main Definitions

* `FailureKind`, `ToolFailure` -- why a tool brought no findings
* `Summary` -- the summary
* `AuditError` -- what ends an audit or a whole run early
-/

namespace LintLedger

/-- The ways in which a tool brings no findings. -/
inductive FailureKind where
  /-- It ran and its exit code says that it failed. -/
  | failed
  /-- It did not run. -/
  | crashed
  /-- It ran well and its report could not be read. -/
  | parsingFailed
deriving DecidableEq, Repr

/-- The name of a kind of failure. -/
def FailureKind.name : FailureKind → String
  | .failed => "failed"
  | .crashed => "crashed"
  | .parsingFailed => "parsing_failed"

/-- Why a tool brought no findings. -/
structure ToolFailure where
  kind : FailureKind
  exit : Int
  message : String
deriving DecidableEq, Repr

/-- What an audit of one project came to. -/
structure Summary where
  target : String
  /-- The names of the tools, in the order in which they were asked for. -/
  requested : List String
  /-- The names of the tools whose findings were taken. -/
  ok : List String
  /-- By the name of the tool. -/
  failed : Assoc ToolFailure
  /-- Seconds by the name of the tool. -/
  durations : Assoc Float
  /-- Findings by the name of the tool. -/
  rows : Assoc Nat
  /-- New findings by the name of the tool. -/
  inserted : Assoc Nat
  /-- Seconds from start to end. -/
  elapsed : Float

namespace Summary

/-- A summary of nothing yet. -/
def blank (target : String) (requested : List String) : Summary where
  target := target
  requested := requested
  ok := []
  failed := []
  durations := []
  rows := []
  inserted := []
  elapsed := 0

/-- Whether any tool failed. -/
def hasFailures (s : Summary) : Bool := !s.failed.isEmpty

/-- The summary after a failure of a tool. -/
def addFailure (s : Summary) (tool : Tool) (failure : ToolFailure) : Summary :=
  { s with failed := s.failed.insert tool.name failure }

/-- The summary after the findings of a tool were taken. -/
def addResult (s : Summary) (tool : Tool) (rows inserted : Nat) : Summary :=
  { s with
      ok := s.ok ++ [tool.name]
      rows := s.rows.insert tool.name rows
      inserted := s.inserted.insert tool.name inserted }

/-- The summary after the time of a tool was taken. -/
def addDuration (s : Summary) (tool : Tool) (seconds : Float) : Summary :=
  { s with durations := s.durations.insert tool.name seconds }

/-- The tools that went well in the order of the request. -/
def inOrder (s : Summary) : Summary := { s with ok := s.requested.filter s.ok.contains }

end Summary

/-- What ends an audit or a whole run early. -/
inductive AuditError where
  | unknownTools (names : List String)
  /-- A tool failed and the audit was to stop at the first failure. -/
  | stopped (tool : Tool) (failure : ToolFailure)
  /-- A project audited in a process of its own failed. -/
  | project (path : String) (code : Int)
  | storage (error : StoreError)
deriving DecidableEq, Repr

namespace AuditError

/-- The message of an error. -/
def message : AuditError → String
  | .unknownTools names => unknownToolsMessage names
  | .stopped tool failure => tool.name ++ " " ++ failure.kind.name ++ ": " ++ failure.message
  | .project path code => "project " ++ path ++ " failed with exit code " ++ toString code
  | .storage error => "storage: " ++ error.message

/-- The exit code that an error gives the program. -/
def exitCode : AuditError → Nat
  | .unknownTools _ => 2
  | _ => 1

end AuditError

end LintLedger
