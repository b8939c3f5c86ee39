import LintLedger.Analyzer.Basic
import LintLedger.Settings

/-!
# Semgrep

Matches of code patterns in many languages, reported as one document with a list of results.

## Main Definitions

* `Semgrep.issue?` -- one result as a finding
* `Semgrep.analyzer` -- the analyzer
-/

namespace LintLedger.Semgrep

/-- The command line. -/
def command (settings : SemgrepSettings) (target : String) : List String :=
  ["semgrep", "scan", "--json", "--metrics", "off", "--timeout", toString settings.timeout,
   "--error"]
  ++ settings.configs.flatMap (fun config => ["--config", config]) ++ [target]

/-- The file of a result. -/
def file? (result : Json) : Option String := result.textAt? "path"

/-- The text that stands in place of a fingerprint for users without an account. -/
def noFingerprint : String := "requires login"

/-- One result as a finding; a result without a path is none. -/
def issue? (ctx : PathContext) (root : String) (result : Json) : Option Finding :=
  (file? result).map fun file =>
    let extra := (result.get? "extra").getD .null
    let about := (extra.get? "metadata").getD .null
    ((Finding.blank .semgrep (ctx.filePath file) root).lines
      (Json.asInt? (result.dig? ["start", "line"])) (Json.asInt? (result.dig? ["end", "line"]))
      |>.columns (Json.asInt? (result.dig? ["start", "col"]))
        (Json.asInt? (result.dig? ["end", "col"]))
      |>.text "check_id" (Json.asText? (result.get? "check_id"))
      |>.text "severity" (Json.asText? (extra.get? "severity"))
      |>.text "message" (Json.asText? (extra.get? "message"))
      |>.text "fix" (Json.asText? (extra.get? "fix"))
      |>.text "fingerprint"
        ((Json.asText? (extra.get? "fingerprint")).filter (· ≠ noFingerprint))
      |>.text "category" (Json.asText? (about.get? "category"))
      |>.text "confidence" (Json.asText? (about.get? "confidence"))
      |>.text "likelihood" (Json.asText? (about.get? "likelihood"))
      |>.text "impact" (Json.asText? (about.get? "impact"))
      |>.json "cwe" (Json.nonEmpty? (about.get? "cwe"))
      |>.json "owasp" (Json.nonEmpty? (about.get? "owasp"))
      |>.json "references" (Json.nonEmpty? (about.get? "references"))
      |>.json "technology" (Json.nonEmpty? (about.get? "technology"))
      |>.text "source_url" (Json.asText? (about.get? "source"))
      |>.json "metadata" (Json.nonEmpty? (some about)))

/-- The findings of a run. -/
def findings (run : RunRecord) (ctx : PathContext) : List Finding :=
  let results := Json.itemsOf (run.document.get? "results")
  results.filterMap (issue? ctx (ctx.root (results.filterMap file?)))

/-- The analyzer. -/
def analyzer (settings : SemgrepSettings) : Analyzer :=
  .plain .semgrep (command settings) findings

end LintLedger.Semgrep
