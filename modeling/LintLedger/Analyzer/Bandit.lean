import LintLedger.Analyzer.Basic

/-!
# Bandit

Security issues in Python sources, reported as one document with a list of results.

## Main Definitions

* `Bandit.issue?` -- one result as a finding
* `Bandit.analyzer` -- the analyzer
-/

namespace LintLedger.Bandit

/-- The command line. -/
def command (target : String) : List String := ["bandit", "-r", target, "--format", "json", "-q"]

/-- The file of a result. -/
def file? (result : Json) : Option String := result.textAt? "filename"

/-- The last line of a result: the greatest of its line range, else its only line. -/
def lastLine? (result : Json) : Option Int :=
  let range := (Json.itemsOf (result.get? "line_range")).filterMap Json.int64?
  range.max?.or (Json.asInt? (result.get? "line_number"))

/-- The test's identifier and name, as far as they are reported, with a colon between them. -/
def rule? (result : Json) : Option String :=
  let parts := [Json.asText? (result.get? "test_id"), Json.asText? (result.get? "test_name")]
  let rule := ":".intercalate (parts.filterMap id)
  if rule = "" then none else some rule

/-- One result as a finding; a result without a file is none. -/
def issue? (ctx : PathContext) (root : String) (result : Json) : Option Finding :=
  (file? result).map fun file =>
    ((Finding.blank .bandit (ctx.filePath file) root).lines
      (Json.asInt? (result.get? "line_number")) (lastLine? result)
      |>.columns (Json.asInt? (result.get? "col_offset"))
        (Json.asInt? (result.get? "end_col_offset"))
      |>.text "rule" (rule? result)
      |>.text "code" (Json.asText? (result.get? "code"))
      |>.text "message" (Json.asText? (result.get? "issue_text"))
      |>.text "issue_severity" (Json.asText? (result.get? "issue_severity"))
      |>.text "issue_confidence" (Json.asText? (result.get? "issue_confidence"))
      |>.text "more_info" (Json.asText? (result.get? "more_info"))
      |>.json "cwe" (Json.nonEmpty? (result.get? "issue_cwe")))

/-- The findings of a run. -/
def findings (run : RunRecord) (ctx : PathContext) : List Finding :=
  let results := Json.itemsOf (run.document.get? "results")
  results.filterMap (issue? ctx (ctx.root (results.filterMap file?)))

/-- The analyzer. -/
def analyzer : Analyzer := .plain .bandit command findings

end LintLedger.Bandit
