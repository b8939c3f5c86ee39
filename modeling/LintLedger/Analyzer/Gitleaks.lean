import LintLedger.Analyzer.Basic
import LintLedger.Settings

/-!
# Gitleaks

Secrets written into sources.  Unless told otherwise no stored row carries the secret itself.

## Main Definitions

* `Gitleaks.masked` -- secret and matched text as they are stored
* `Gitleaks.analyzer` -- the analyzer
-/

namespace LintLedger.Gitleaks

/-- The command line. -/
def command (settings : GitleaksSettings) (target : String) : List String :=
  ["gitleaks", "detect", "--source", target, "--report-format", "json", "--report-path", "-"]
  ++ (if settings.redact then ["--redact"] else [])
  ++ ["--no-git", "--log-level", "warn", "--no-banner"]

/-- The word that stands in place of a secret. -/
def redacted : String := "REDACTED"

/-- The reported leaks: the document itself, or the first of three members that has items. -/
def leaksOf : Json → List Json
  | .arr items => items
  | .obj members =>
    let lists := ["results", "leaks", "findings"].map fun key =>
      Json.itemsOf (Assoc.find? key members)
    (lists.find? fun items => !items.isEmpty).getD []
  | _ => []

/-- The file of a leak. -/
def file? (leak : Json) : Option String := leak.textAt? "File"

/-- Secret and matched text as they are stored.  With redaction the secret is replaced by a
word, and so is a matched text that does not show that word itself. -/
def masked (settings : GitleaksSettings) (leak : Json) : Option String × Option String :=
  let secret := Json.asText? (leak.get? "Secret")
  let found := Json.asText? (leak.get? "Match")
  if settings.redact then
    (some redacted, some ((found.filter fun m => Text.contains m redacted).getD redacted))
  else (secret, found)

/-- One leak as a finding; a leak without a file is none. -/
def issue? (settings : GitleaksSettings) (ctx : PathContext) (root : String) (leak : Json) :
    Option Finding :=
  (file? leak).map fun file =>
    let line := Json.asInt? (leak.get? "StartLine")
    let (secret, found) := masked settings leak
    ((Finding.blank .gitleaks (ctx.filePath file) root).lines
      line ((Json.asInt? (leak.get? "EndLine")).or line)
      |>.columns (Json.asInt? (leak.get? "StartColumn")) (Json.asInt? (leak.get? "EndColumn"))
      |>.text "rule_id" (Json.asText? (leak.get? "RuleID"))
      |>.text "description" (Json.asText? (leak.get? "Description"))
      |>.text "message"
        ((Json.asText? (leak.get? "Message")).or (Json.asText? (leak.get? "Description")))
      |>.text "fingerprint" (Json.asText? (leak.get? "Fingerprint"))
      |>.text "secret" secret
      |>.text "match_text" found
      |>.real "entropy" (Json.asFloat? (leak.get? "Entropy"))
      |>.text "commit_sha" (Json.asText? (leak.get? "Commit"))
      |>.text "author" (Json.asText? (leak.get? "Author"))
      |>.text "email" (Json.asText? (leak.get? "Email"))
      |>.text "commit_date" (Json.asText? (leak.get? "Date"))
      |>.json "tags" (Json.nonEmpty? (leak.get? "Tags")))

/-- The findings of a run. -/
def findings (settings : GitleaksSettings) (run : RunRecord) (ctx : PathContext) : List Finding :=
  let leaks := leaksOf run.document
  leaks.filterMap (issue? settings ctx (ctx.root (leaks.filterMap file?)))

/-- The analyzer. -/
def analyzer (settings : GitleaksSettings) : Analyzer :=
  .plain .gitleaks (command settings) (findings settings)

end LintLedger.Gitleaks
