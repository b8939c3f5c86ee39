import LintLedger.Analyzer.Basic

/-!
# The static analysis results format

Several tools report in one common format: runs of a driver with rules, and results that
refer to the rules and to places in files.  Read here is one hit per result and place.

## Main Definitions

* `Sarif.Hit` -- a result at one place
* `Sarif.hits` -- the hits of a report
* `Sarif.findings` -- the hits as findings of a tool
* `Snyk.analyzer`, `Qlty.analyzer` -- the tools that report so
-/

namespace LintLedger.Sarif

/-- A result at one place in a file. -/
structure Hit where
  uri : String
  region : Region
  ruleId? : Option String
  ruleName? : Option String
  level? : Option String
  message? : Option String
  fingerprint? : Option String
  help? : Option String
  tags? : Option Json
  properties? : Option Json
  /-- The driver of the run, such as a linter that the tool wraps. -/
  driver? : Option String

/-- The rule of a result: by its identifier, else by its index. -/
def ruleFor? (result : Json) (rules : List Json) : Option Json :=
  let named := (result.textAt? "ruleId").bind fun id =>
    rules.find? fun rule => rule.textAt? "id" == some id
  named.or ((Json.asInt? (result.get? "ruleIndex")).bind fun index =>
    if index < 0 then none else rules[index.toNat]?)

/-- The first fingerprint, stable ones before partial ones. -/
def fingerprint? (result : Json) : Option String :=
  let groups := ["fingerprints", "partialFingerprints"].filterMap fun key =>
    (result.get? key).bind Json.obj?
  (groups.flatMap fun group => group.filterMap fun member => Json.asText? (some member.2)).head?

/-- A place without the scheme of local files. -/
def withoutScheme (uri : String) : String :=
  ((Text.afterFront? "file://".toList uri.toList).map String.ofList).getD uri

/-- A result at one of its locations; a location without a file is none. -/
def hitAt? (driver? : Option String) (rules : List Json) (result location : Json) : Option Hit :=
  let place := (location.get? "physicalLocation").getD .null
  (Json.asText? (place.dig? ["artifactLocation", "uri"])).map fun uri =>
    let rule := (ruleFor? result rules).getD .null
    let region := (place.get? "region").getD .null
    let line := Json.asInt? (region.get? "startLine")
    { uri := withoutScheme uri
      region :=
        { line? := line
          endLine? := (Json.asInt? (region.get? "endLine")).or line
          column? := Json.asInt? (region.get? "startColumn")
          endColumn? := Json.asInt? (region.get? "endColumn") }
      ruleId? := (Json.asText? (result.get? "ruleId")).or (Json.asText? (rule.get? "id"))
      ruleName? := Json.asText? (rule.get? "name")
      level? := (Json.asText? (result.get? "level")).or
        (Json.asText? (rule.dig? ["defaultConfiguration", "level"]))
      message? := (Json.asText? (result.dig? ["message", "text"])).or
        (Json.asText? (result.dig? ["message", "markdown"]))
      fingerprint? := fingerprint? result
      help? := (Json.asText? (rule.dig? ["help", "text"])).or
        (Json.asText? (rule.dig? ["shortDescription", "text"]))
      tags? := Json.nonEmpty? (rule.dig? ["properties", "tags"])
      properties? := Json.nonEmpty? (result.get? "properties")
      driver? := driver? }

/-- The hits of one run. -/
def hitsOfRun (run : Json) : List Hit :=
  let driver := (run.dig? ["tool", "driver"]).getD .null
  let rules := Json.itemsOf (driver.get? "rules")
  let driver? := Json.asText? (driver.get? "name")
  (Json.itemsOf (run.get? "results")).flatMap fun result =>
    (Json.itemsOf (result.get? "locations")).filterMap (hitAt? driver? rules result)

/-- The hits of a report, run by run. -/
def hits (report : Json) : List Hit := (Json.itemsOf (report.get? "runs")).flatMap hitsOfRun

/-- A hit as a finding of a tool. -/
def row (tool : Tool) (ctx : PathContext) (root : String) (hit : Hit) : Finding :=
  { Finding.blank tool (ctx.filePath hit.uri) root with region := hit.region }
    |>.text "rule_id" hit.ruleId?
    |>.text "rule_name" hit.ruleName?
    |>.text "level" hit.level?
    |>.text "message" hit.message?
    |>.text "fingerprint" hit.fingerprint?
    |>.text "help_text" hit.help?
    |>.json "tags" hit.tags?
    |>.json "properties" hit.properties?

/-- The findings of a run; with `wraps` a finding names the driver too. -/
def findings (tool : Tool) (wraps : Bool) (run : RunRecord) (ctx : PathContext) : List Finding :=
  let all := hits run.document
  let root := ctx.root (all.map (·.uri))
  all.map fun hit =>
    let finding := row tool ctx root hit
    if wraps then finding.text "tool_name" hit.driver? else finding

end LintLedger.Sarif

/-! ## Tools -/

namespace LintLedger.Snyk

/-- The command line of the static code analysis. -/
def command (target : String) : List String := ["snyk", "code", "test", target, "--sarif"]

/-- The analyzer. -/
def analyzer : Analyzer := .plain .snyk command (Sarif.findings .snyk false)

end LintLedger.Snyk

namespace LintLedger.Qlty

/-- The command line of a bundle of linters. -/
def command (target : String) : List String :=
  ["qlty", "check", target, "--no-fix", "--no-formatters", "--sarif"]

/-- The analyzer; the one document has a run per linter, so that a finding names the linter it
comes from. -/
def analyzer : Analyzer := .plain .qlty command (Sarif.findings .qlty true)

end LintLedger.Qlty
