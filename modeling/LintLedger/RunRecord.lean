import LintLedger.Json.Reader
import LintLedger.Json.Writer
import LintLedger.Text.Blank

/-!
# Run records

What is kept of one run of one tool, whatever the tool: its command line, where it ran, how it
ended and what it printed.  Output that looks like a JSON document is kept in parsed form too.

## Main Definitions

* `RunRecord` -- the record
* `detectPayload` -- the document a tool printed, if it printed one
* `RunRecord.report?` -- the document a report reader works on
* `RunRecord.failureMessage` -- a short text saying why a run failed
-/

namespace LintLedger

/-- One run of one tool. -/
structure RunRecord where
  tool : String
  cmd : List String
  cwd : String
  exitCode : Int
  /-- Seconds of wall-clock time. -/
  duration : Float
  stdout : String
  stderr : String
  /-- The document found on standard output, or put together from several runs. -/
  payload? : Option Json

/-- The JSON document a text consists of, if its first character opens one. -/
def detectPayload (stdout : String) : Option Json :=
  let text := Text.trim stdout
  match text.toList.head? with
  | some '{' => Json.parse? text
  | some '[' => Json.parse? text
  | _ => none

namespace RunRecord

/-- The exit code of a run that was killed because its time was up. -/
def timeoutExit : Int := 124

/-- Whether the exit code says that time was up. -/
def timedOut (run : RunRecord) : Bool := run.exitCode == timeoutExit

/-- The payload, else standard output read as a JSON document. -/
def report? (run : RunRecord) : Option Json :=
  match run.payload? with
  | some payload => some payload
  | none => Json.parse? (Text.trim run.stdout)

/-- How many characters of output a failure message keeps. -/
def messageLimit : Nat := 2000

/-- The end of standard error, or of standard output where standard error is blank. -/
def failureMessage (run : RunRecord) : String :=
  let source := if Text.isBlankText run.stderr then run.stdout else run.stderr
  Text.tail messageLimit (Text.trim source)

/-- The record as a document, its members in the order of the record. -/
def toJson (run : RunRecord) : Json :=
  .obj [
    ("tool", .str run.tool),
    ("cmd", Json.ofStrings run.cmd),
    ("cwd", .str run.cwd),
    ("exit_code", Json.ofInt run.exitCode),
    ("duration_s", Json.ofFloat run.duration),
    ("stdout", .str run.stdout),
    ("stderr", .str run.stderr),
    ("payload", run.payload?.getD .null)]

end RunRecord

end LintLedger
