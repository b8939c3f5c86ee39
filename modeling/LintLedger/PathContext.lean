import LintLedger.Path.Basic
import LintLedger.RunRecord

/-!
# Path contexts

A report names files as its tool saw them.  The context of a run says how such a name becomes
the stored path, and what root the rows of the report share.

## Main Definitions

* `PathContext` -- working directory, anchor and complexity metrics of a run
* `PathContext.filePath`, `PathContext.relative`, `PathContext.root` -- the derived names
-/

namespace LintLedger

/-- What a report reader knows besides the report. -/
structure PathContext where
  /-- Where the tool ran. -/
  cwd? : Option String
  /-- The project whose folder name stored paths begin with. -/
  anchor? : Option String
  /-- The complexity document of the same audit. -/
  complexity? : Option Json

namespace PathContext

/-- The context of a run; an empty working directory counts as none. -/
def ofRun (run : RunRecord) (anchor? : Option String) (complexity? : Option Json) :
    PathContext where
  cwd? := if run.cwd = "" then none else some run.cwd
  anchor? := anchor?
  complexity? := complexity?

/-- The stored form of a reported path: absolute, then cut in front of the anchor's folder. -/
def filePath (ctx : PathContext) (raw : String) : String :=
  let absolute := Path.ensureAbsolute raw ctx.cwd?
  match ctx.anchor? with
  | some anchor => Path.clipToAnchor absolute (Path.anchorName anchor)
  | none => absolute

/-- A reported path relative to the working directory. -/
def relative (ctx : PathContext) (raw : String) : String := Path.relativize raw ctx.cwd?

/-- The root of the rows of a report: the anchor itself, else a label made from the working
directory or the reported paths. -/
def root (ctx : PathContext) (raws : List String) : String :=
  match ctx.anchor? with
  | some anchor => anchor
  | none => Path.rootLabel ctx.cwd? (raws.map ctx.relative)

end PathContext

end LintLedger
