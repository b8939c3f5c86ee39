import LintLedger.Analyzer.Basic
import LintLedger.Json.Reader
import LintLedger.Settings

/-!
# Mypy

Type errors in Python sources, reported as one JSON object per line.

## Main Definitions

* `Mypy.entries` -- the reported objects
* `Mypy.analyzer` -- the analyzer
-/

namespace LintLedger.Mypy

/-- The command line. -/
def command (settings : MypySettings) (target : String) : List String :=
  ["mypy", target, "--output", "json", "--no-site-packages", "--explicit-package-bases",
   "--show-column-numbers", "--ignore-missing-imports", "--no-incremental"]
  ++ if settings.strict then ["--strict"] else []

/-- The object on a line that begins with an opening brace. -/
def entryOfLine? (line : String) : Option Json :=
  let text := Text.trim line
  if text.toList.head? == some '{' then Json.parse? text else none

/-- The reported objects: those of a payload that is a list, else those on the lines of
standard output. -/
def entries (run : RunRecord) : List Json :=
  match run.payload? with
  | some (.arr items) => items.filter Json.isObject
  | _ => (Text.lines run.stdout).filterMap entryOfLine?

/-- The file of an entry. -/
def file? (entry : Json) : Option String := entry.textAt? "file"

/-- One entry as a finding; an entry without a file is none. -/
def issue? (ctx : PathContext) (root : String) (entry : Json) : Option Finding :=
  (file? entry).map fun file =>
    let line := Json.asInt? (entry.get? "line")
    ((Finding.blank .mypy (ctx.filePath file) root).lines
      line ((Json.asInt? (entry.get? "end_line")).or line)
      |>.columns (Json.asInt? (entry.get? "column")) (Json.asInt? (entry.get? "end_column"))
      |>.text "message" (Json.asText? (entry.get? "message"))
      |>.text "hint" (Json.asText? (entry.get? "hint"))
      |>.text "code" (Json.asText? (entry.get? "code"))
      |>.text "severity" (Json.asText? (entry.get? "severity")))

/-- The findings of a run. -/
def findings (run : RunRecord) (ctx : PathContext) : List Finding :=
  let all := entries run
  all.filterMap (issue? ctx (ctx.root (all.filterMap file?)))

/-- The analyzer. -/
def analyzer (settings : MypySettings) : Analyzer := .plain .mypy (command settings) findings

end LintLedger.Mypy
