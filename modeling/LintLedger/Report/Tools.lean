import LintLedger.Process.Basic
import LintLedger.Report.Table

/-!
# The list of tools

The program lists the tools it knows, each with the table of its findings and whether its
program is installed.

## Main Definitions

* `toolsTable` -- the list
-/

namespace LintLedger

/-- The table of all tools. -/
def toolsTable (installed : Tool → Bool) : Table where
  header := ["Tool", "Table", "Installed"]
  rows := Tool.all.map fun t =>
    [{ text := t.name }, { text := t.tableName },
     ⟨if installed t then "✓ yes" else "✗ no", .center⟩]

end LintLedger
