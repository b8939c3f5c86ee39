import LintLedger.Analyzer.Radon
import LintLedger.Text.Case

/-!
# ESLint

Problems in JavaScript and TypeScript sources.  Besides a row per message there is a row per
linted file, with its counts and its maintainability index, and one row for the whole scan.

## Main Definitions

* `Eslint.isSource` -- the files that count
* `Eslint.Metrics`, `Eslint.metricsOf` -- what the messages of a scan add up to
* `Eslint.analyzer` -- the analyzer
-/

namespace LintLedger.Eslint

open LintLedger.Text

/-- The command line. -/
def command (target : String) : List String :=
  ["eslint", "-f", "json", "--no-error-on-unmatched-pattern", "--no-warn-ignored", target]

/-- The extensions of sources. -/
def sourceExtensions : List String := ["ts", "tsx", "js", "jsx", "mjs", "cjs"]

/-- Whether a file counts: it has no extension or that of a source. -/
def isSource (file : String) : Bool :=
  match Path.extension? file with
  | some ext => sourceExtensions.contains (asciiLower ext)
  | none => true

/-- An entry of the report that counts. -/
structure Entry where
  file : String
  json : Json

/-- The entries of a report that count. -/
def entriesOf (report : Json) : List Entry :=
  (Json.itemsOf (some report)).filterMap fun entry =>
    ((entry.textAt? "filePath").filter isSource).map fun file => ⟨file, entry⟩

/-- The messages of an entry. -/
def Entry.messages (e : Entry) : List Json := Json.itemsOf (e.json.get? "messages")

/-! ## Counts -/

/-- Errors and warnings, all of them and those that can be mended. -/
structure Counts where
  errors : Int
  warnings : Int
  fixableErrors : Int
  fixableWarnings : Int
deriving DecidableEq, Repr

/-- A sum kept within 64 bits with sign, by wrapping around. -/
def wrap (i : Int) : Int := i.bmod (Nat.pow 2 64)

/-- The sum of two counts. -/
def Counts.add (a b : Counts) : Counts where
  errors := wrap (a.errors + b.errors)
  warnings := wrap (a.warnings + b.warnings)
  fixableErrors := wrap (a.fixableErrors + b.fixableErrors)
  fixableWarnings := wrap (a.fixableWarnings + b.fixableWarnings)

/-- The counts that an entry states; a missing one is zero. -/
def Entry.counts (e : Entry) : Counts :=
  let stated key := (Json.asInt? (e.json.get? key)).getD 0
  { errors := stated "errorCount"
    warnings := stated "warningCount"
    fixableErrors := stated "fixableErrorCount"
    fixableWarnings := stated "fixableWarningCount" }

/-- The counts of all entries. -/
def totals (entries : List Entry) : Counts :=
  entries.foldl (fun sum e => sum.add e.counts) ⟨0, 0, 0, 0⟩

/-- The counts as fields of a finding. -/
def withCounts (f : Finding) (c : Counts) : Finding :=
  f.int "error_count" (some c.errors)
    |>.int "warning_count" (some c.warnings)
    |>.int "fixable_error_count" (some c.fixableErrors)
    |>.int "fixable_warning_count" (some c.fixableWarnings)

/-! ## Metrics -/

/-- The first number in a text: decimal digits, and a point with more of them. -/
def firstNumber (cs : List Char) : List Char :=
  let cs := cs.dropWhile fun c => !isDecimalDigit c
  let whole := cs.takeWhile isDecimalDigit
  match cs.dropWhile isDecimalDigit with
  | '.' :: rest =>
    let part := rest.takeWhile isDecimalDigit
    if part.isEmpty then whole else whole ++ '.' :: part
  | _ => whole

/-- The first number in a text as a float. -/
def reported? (body : String) : Option Float :=
  Decimal.floatOf? (String.ofList (firstNumber body.toList))

/-- The rule of a message. -/
def rule? (message : Json) : Option String := Json.asText? (message.get? "ruleId")

/-- The severity of a message. -/
def severity? (message : Json) : Option Int := Json.asInt? (message.get? "severity")

/-- The text of a message without blanks at its ends. -/
def body? (message : Json) : Option String := (Json.asText? (message.get? "message")).map trim

/-- How often a rule with a threshold was broken, and the greatest number it reported. -/
structure Tally where
  count : Nat
  max : Float

/-- The tally of one rule over a list of messages. -/
def tallyOf (rule : String) (messages : List Json) : Tally :=
  let hits := messages.filter fun m => rule? m == some rule
  { count := hits.length
    max := (hits.filterMap fun m => (body? m).bind reported?).foldl Radon.greater 0.0 }

/-- What the messages of a scan add up to. -/
structure Metrics where
  files : Nat
  byRule : Assoc Nat
  bySeverity : Assoc Nat
  complexity : Tally
  maxDepth : Tally
  maxParams : Tally
  maxLinesPerFunction : Tally
  importCycles : Nat

/-- Whether a severity is that of a warning or of an error. -/
def isGraded (severity : Int) : Bool := severity == 1 || severity == 2

/-- What the messages of some entries add up to. -/
def metricsOf (entries : List Entry) : Metrics :=
  let messages := entries.flatMap Entry.messages
  { files := entries.length
    byRule := Radon.countOf (messages.filterMap rule?)
    bySeverity :=
      Radon.countOf (((messages.filterMap severity?).filter isGraded).map fun i => toString i)
    complexity := tallyOf "complexity" messages
    maxDepth := tallyOf "max-depth" messages
    maxParams := tallyOf "max-params" messages
    maxLinesPerFunction := tallyOf "max-lines-per-function" messages
    importCycles := (messages.filter fun m => rule? m == some "import/no-cycle").length }

/-- A tally as a document. -/
def Tally.toJson (t : Tally) : Json :=
  .obj [("count", Json.ofNat t.count), ("max", Json.ofFloat t.max)]

/-- The metrics as a document, its members in key order. -/
def Metrics.toJson (m : Metrics) : Json :=
  .obj [
    ("by_rule", Json.ofAssoc Json.ofNat m.byRule),
    ("by_severity", Json.ofAssoc Json.ofNat m.bySeverity),
    ("complexity", m.complexity.toJson),
    ("files", Json.ofNat m.files),
    ("import_cycles", Json.ofNat m.importCycles),
    ("max_depth", m.maxDepth.toJson),
    ("max_lines_per_function", m.maxLinesPerFunction.toJson),
    ("max_params", m.maxParams.toJson)]

/-! ## Findings -/

/-- The finding of one message. -/
def issueRow (file root : String) (message : Json) : Finding :=
  let fix? := (message.get? "fix").filter Json.isObject
  let suggestions? := (message.get? "suggestions").bind Json.arr?
  (Finding.blank .eslint file root).lines
      (Json.asInt? (message.get? "line")) (Json.asInt? (message.get? "endLine"))
    |>.columns (Json.asInt? (message.get? "column")) (Json.asInt? (message.get? "endColumn"))
    |>.text "row_type" (some "issue")
    |>.text "rule_id" (rule? message)
    |>.int "severity" (severity? message)
    |>.text "message" (body? message)
    |>.flag "fatal" ((message.get? "fatal").bind Json.bool?)
    |>.flag "fix" (some fix?.isSome)
    |>.text "node_type" (Json.asText? (message.get? "nodeType"))
    |>.text "message_id" (Json.asText? (message.get? "messageId"))
    |>.int "suggestion_count" (suggestions?.map fun items => items.length)
    |>.json "suggestions" (suggestions?.map Json.arr)
    |>.text "fix_text" (fix?.bind fun fix => Json.asText? (fix.get? "text"))
    |>.json "fix_range" (fix?.bind fun fix => Json.nonEmpty? (fix.get? "range"))

/-- The finding of a linted file. -/
def fileRow (ctx : PathContext) (file root : String) (e : Entry) : Finding :=
  let index? := ctx.complexity?.bind fun bundle => Radon.maintainability? bundle e.file ctx.cwd?
  withCounts ((Finding.blank .eslint file root).text "row_type" (some "file")) e.counts
    |>.real "mi" (index?.map (·.1))
    |>.text "mi_rank" (index?.bind (·.2))

/-- The findings of an entry: its messages, then its file. -/
def entryRows (ctx : PathContext) (root : String) (e : Entry) : List Finding :=
  let file := ctx.filePath e.file
  e.messages.map (issueRow file root) ++ [fileRow ctx file root e]

/-- The finding of the whole scan. -/
def scanRow (ctx : PathContext) (root : String) (entries : List Entry) : Finding :=
  let place := ctx.filePath ((ctx.anchor?.or ctx.cwd?).getD ".")
  withCounts ((Finding.blank .eslint place root).text "row_type" (some "scan")) (totals entries)
    |>.json "metrics" (some (metricsOf entries).toJson)

/-- The findings of a run, the scan last. -/
def findings (run : RunRecord) (ctx : PathContext) : List Finding :=
  let entries := entriesOf run.document
  let root := ctx.root (entries.map (·.file))
  entries.flatMap (entryRows ctx root) ++ [scanRow ctx root entries]

/-- The analyzer. -/
def analyzer : Analyzer :=
  { Analyzer.plain .eslint command findings with usesComplexity := true }

end LintLedger.Eslint
