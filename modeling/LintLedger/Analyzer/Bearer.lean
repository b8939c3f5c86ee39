import LintLedger.Analyzer.Basic

/-!
# Bearer

Data-flow security findings, reported in one list per severity.

## Main Definitions

* `Bearer.severities` -- the severities, most severe first
* `Bearer.analyzer` -- the analyzer
-/

namespace LintLedger.Bearer

/-- The command line. -/
def command (target : String) : List String :=
  ["bearer", "scan", target, "-f", "json", "--quiet"]

/-- The severities, most severe first. -/
def severities : List String := ["critical", "high", "medium", "low", "warning"]

/-- The reported items with their severities. -/
def itemsOf (report : Json) : List (String × Json) :=
  severities.flatMap fun severity =>
    (Json.itemsOf (report.get? severity)).map fun item => (severity, item)

/-- The file of an item: the absolute name where there is one, else the relative one. -/
def file? (item : Json) : Option String :=
  (["full_filename", "filename"].filterMap fun key => item.textAt? key).find? (· ≠ "")

/-- One item as a finding; an item without a file is none. -/
def issue? (ctx : PathContext) (root : String) (entry : String × Json) : Option Finding :=
  let (severity, item) := entry
  (file? item).map fun file =>
    let source := (item.get? "source").getD .null
    let line := (Json.asInt? (item.get? "line_number")).or (Json.asInt? (source.get? "start"))
    let title := Json.asText? (item.get? "title")
    ((Finding.blank .bearer (ctx.filePath file) root).lines
      line ((Json.asInt? (source.get? "end")).or line)
      |>.columns (Json.asInt? (source.dig? ["column", "start"]))
        (Json.asInt? (source.dig? ["column", "end"]))
      |>.text "rule_id" (Json.asText? (item.get? "id"))
      |>.text "title" title
      |>.text "severity" (some severity)
      |>.text "message" (title.or (Json.asText? (item.get? "description")))
      |>.text "fingerprint" (Json.asText? (item.get? "fingerprint"))
      |>.json "cwe_ids" (Json.nonEmpty? (item.get? "cwe_ids"))
      |>.json "category_groups" (Json.nonEmpty? (item.get? "category_groups"))
      |>.text "code_extract" (Json.asText? (item.get? "code_extract"))
      |>.text "documentation_url" (Json.asText? (item.get? "documentation_url")))

/-- The findings of a run, most severe first. -/
def findings (run : RunRecord) (ctx : PathContext) : List Finding :=
  let entries := itemsOf run.document
  entries.filterMap (issue? ctx (ctx.root (entries.filterMap fun e => file? e.2)))

/-- The analyzer. -/
def analyzer : Analyzer := .plain .bearer command findings

end LintLedger.Bearer
