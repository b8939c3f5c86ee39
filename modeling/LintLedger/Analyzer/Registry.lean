import LintLedger.Analyzer.Bandit
import LintLedger.Analyzer.Bearer
import LintLedger.Analyzer.Biome
import LintLedger.Analyzer.Eslint
import LintLedger.Analyzer.Gitleaks
import LintLedger.Analyzer.Jscpd
import LintLedger.Analyzer.Mypy
import LintLedger.Analyzer.Sarif
import LintLedger.Analyzer.Semgrep
import LintLedger.Analyzer.Vulture
import LintLedger.Text.Case

/-!
# The registry of analyzers

Users name tools in any case and with blanks around; the registry turns such names into
analyzers.

## Main Definitions

* `analyzerOf` -- the analyzer of a tool under given settings
* `toolNamed?` -- the tool a user means
* `resolveTools` -- the tools of a list of names, or all names that are unknown
-/

namespace LintLedger

/-- The analyzer of a tool. -/
def analyzerOf (settings : ToolSettings) : Tool → Analyzer
  | .bandit => Bandit.analyzer
  | .mypy => Mypy.analyzer settings.mypy
  | .radon => Radon.analyzer
  | .vulture => Vulture.analyzer settings.vulture
  | .semgrep => Semgrep.analyzer settings.semgrep
  | .eslint => Eslint.analyzer
  | .gitleaks => Gitleaks.analyzer settings.gitleaks
  | .biome => Biome.analyzer
  | .snyk => Snyk.analyzer
  | .bearer => Bearer.analyzer
  | .qlty => Qlty.analyzer
  | .jscpd => Jscpd.analyzer settings.jscpd

/-- The tool that a user means by a name: blanks at its ends and the case of ASCII letters do
not matter. -/
def toolNamed? (name : String) : Option Tool := Tool.ofName? (Text.asciiLower (Text.trim name))

/-- The elements of a list without repetitions, each at its first place. -/
def firstOccurrences {α : Type} [DecidableEq α] (xs : List α) : List α :=
  (xs.foldl (fun kept x => if x ∈ kept then kept else x :: kept) []).reverse

/-- The tools of a list of names in the order asked for, without repetitions; if any name is
unknown, all unknown names as they were given. -/
def resolveTools (names : List String) : Except (List String) (List Tool) :=
  match names.filter fun name => (toolNamed? name).isNone with
  | [] => .ok (firstOccurrences (names.filterMap toolNamed?))
  | unknown => .error unknown

/-- The message about unknown tools. -/
def unknownToolsMessage (names : List String) : String :=
  "unknown tool(s): " ++ ", ".intercalate names

end LintLedger
