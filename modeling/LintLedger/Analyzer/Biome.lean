import LintLedger.Analyzer.Basic
import LintLedger.Text.Bytes

/-!
# Biome

Problems in JavaScript and TypeScript sources.  A position is a span of bytes of the source,
which is part of the report, so lines are found by counting line feeds.

## Main Definitions

* `Biome.lineAt?` -- the line of a byte
* `Biome.messageOf?` -- the text of a message, which may come in parts
* `Biome.analyzer` -- the analyzer
-/

namespace LintLedger.Biome

/-- The command line. -/
def command (target : String) : List String :=
  ["biome", "check", target, "--reporter", "json", "--colors", "off", "--log-level", "none",
   "--formatter-enabled=false", "--no-errors-on-unmatched"]

/-- The file of a diagnostic. -/
def file? (diagnostic : Json) : Option String :=
  ((diagnostic.dig? ["location", "path", "file"]).bind Json.str?).filter (· ≠ "")

/-- The number, from one, of the line that holds a byte; an offset beyond the end means the
last line. -/
def lineAt? (source : String) (offset? : Option Int) : Option Int :=
  offset?.bind fun offset =>
    if offset < 0 then none
    else some (Int.ofNat (((Text.encode source).take offset.toNat).count 10) + 1)

/-- The text of a message: a string, or the contents of its parts. -/
def messageOf? (message? : Option Json) : Option String :=
  let joined? := match message? with
    | some (.str s) => some s
    | some (.arr parts) => some (String.join (parts.filterMap (Json.textAt? "content")))
    | _ => none
  joined?.filter (· ≠ "")

/-- One diagnostic as a finding; a diagnostic without a file is none. -/
def issue? (ctx : PathContext) (root : String) (diagnostic : Json) : Option Finding :=
  (file? diagnostic).map fun file =>
    let location := (diagnostic.get? "location").getD .null
    let span := Json.itemsOf (location.get? "span")
    let first := Json.asInt? span[0]?
    let last := Json.asInt? span[1]?
    let source? := location.textAt? "sourceCode"
    let line := source?.bind fun source => lineAt? source first
    let endLine := source?.bind fun source => lineAt? source last
    ((Finding.blank .biome (ctx.filePath file) root).lines line (endLine.or line)
      |>.text "category" (Json.asText? (diagnostic.get? "category"))
      |>.text "severity" (Json.asText? (diagnostic.get? "severity"))
      |>.text "message" ((messageOf? (diagnostic.get? "message")).or
        (Json.asText? (diagnostic.get? "description")))
      |>.int "span_start" first
      |>.int "span_end" last
      |>.json "tags" (Json.nonEmpty? (diagnostic.get? "tags"))
      |>.json "advices"
        ((Json.nonEmpty? (diagnostic.get? "advices")).filter Json.isObject))

/-- The findings of a run. -/
def findings (run : RunRecord) (ctx : PathContext) : List Finding :=
  let diagnostics := Json.itemsOf (run.document.get? "diagnostics")
  diagnostics.filterMap (issue? ctx (ctx.root (diagnostics.filterMap file?)))

/-- The analyzer. -/
def analyzer : Analyzer := .plain .biome command findings

end LintLedger.Biome
