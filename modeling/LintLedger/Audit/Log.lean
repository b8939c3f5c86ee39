import LintLedger.Audit.Basic
import LintLedger.FileTree.Basic
import LintLedger.Path.Folder

/-!
# The debug log of a run

With a debug log, each project of a run has a folder of its own with the events, the summary
and the raw output of every tool.  The log is a convenience: whatever goes wrong while it is
written is passed over, and the audit does not notice.

## Main Definitions

* `RunLog` -- where the log of a run is, and what time it tells
* `RunLog.folder` -- the folder of a project
* `RunLog.write` -- the notes of a run written into a file tree
-/

namespace LintLedger

/-- The log of one run. -/
structure RunLog where
  /-- The directory from which `dir` is meant. -/
  base : String
  /-- The folder of the run, which has a folder for each project. -/
  dir : String
  /-- The time written into events and summaries. -/
  timestamp : String

namespace RunLog

/-- The folder of a project. -/
def folder (log : RunLog) (anchor : String) : String :=
  Path.join log.dir (Path.projectSlug anchor)

/-- The folder of the raw output of the tools. -/
def artifacts (log : RunLog) (anchor : String) : String :=
  Path.join (log.folder anchor) "artifacts"

/-- The document about the failure of a tool. -/
def failureJson (f : ToolFailure) : Json :=
  .obj [("exit", Json.ofInt f.exit), ("kind", .str f.kind.name), ("message", .str f.message)]

/-- The document about a summary; its members are in the order of their names. -/
def summaryJson (log : RunLog) (anchor : String) (s : Summary) : Json :=
  .obj [
    ("artifacts_dir", .str (log.artifacts anchor)),
    ("durations_sec", Json.ofAssoc Json.ofFloat s.durations),
    ("elapsed_total_sec", Json.ofFloat s.elapsed),
    ("inserted", Json.ofAssoc Json.ofNat s.inserted),
    ("project", .str s.target),
    ("timestamp", .str log.timestamp),
    ("tools_failed", Json.ofAssoc failureJson s.failed),
    ("tools_ok", Json.ofStrings s.ok),
    ("tools_requested", Json.ofStrings s.requested)]

/-- Writes texts to files one after the other, up to the first that cannot be written. -/
def writeTexts : List (String × String) → FileTree → FileTree
  | [], t => t
  | (path, text) :: rest, t =>
    match t.writeText path text with
    | .ok t' => writeTexts rest t'
    | .error _ => t

/-- The files about one run of a tool: the record and its two streams. -/
def artifactFiles (dir : String) (run : RunRecord) : List (String × String) :=
  [(Path.join dir (run.tool ++ ".json"), run.toJson.renderIndented),
   (Path.join dir (run.tool ++ ".stdout.log"), run.stdout),
   (Path.join dir (run.tool ++ ".stderr.log"), run.stderr)]

/-- The place of a file or folder of the log. -/
def place (log : RunLog) (path : String) : String := Path.join log.base path

/-- A file tree and the anchors whose folders could be made. -/
abbrev Writer := FileTree × List String

/-- Writes one note. -/
def writeNote (log : RunLog) (w : Writer) (anchor : String) : Note → Writer
  | .opened =>
    match w.1.makeDirs (log.place (log.artifacts anchor)) with
    | .ok t => (t, anchor :: w.2)
    | .error _ => (w.1, w.2.filter (· ≠ anchor))
  | note =>
    if !w.2.contains anchor then w
    else
      match note with
      | .event e =>
        let line := (e.toJson log.timestamp).render ++ "\n"
        ((w.1.append (log.place (Path.join (log.folder anchor) "events.jsonl"))
          (Text.encode line)).toOption.getD w.1, w.2)
      | .artifact run =>
        (writeTexts (artifactFiles (log.place (log.artifacts anchor)) run) w.1, w.2)
      | .closed s =>
        (writeTexts [(log.place (Path.join (log.folder anchor) "summary.json"),
          (log.summaryJson anchor s).renderIndented)] w.1, w.2)
      | .opened => w

/-- Writes the notes of a run. -/
def write (log : RunLog) (notes : List (String × Note)) (t : FileTree) : FileTree :=
  (notes.foldl (fun w n => log.writeNote w n.1 n.2) ((t, []) : Writer)).1

end RunLog

end LintLedger
