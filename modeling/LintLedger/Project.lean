import LintLedger.FileTree.Basic

/-!
# Projects

A directory is a project if it holds one of the usual marker files.  Discovery looks one level
below a root, or several levels; the root itself is the project only if nothing is found
below it, so that a marked root does not audit its parts twice.

## Main Definitions

* `Project.isProject` -- whether a directory is marked
* `Project.below` -- the projects below a root, by the names that lead to them
* `Project.discover` -- the projects to audit
-/

namespace LintLedger.Project

/-- Entries whose presence makes a directory a project. -/
def markers : List String :=
  [".git", "pyproject.toml", "package.json", "requirements.txt", "setup.cfg", "setup.py",
   "Pipfile", "poetry.lock", "tsconfig.json"]

/-- Names of directories that are never projects and never looked into. -/
def excluded : List String :=
  [".git", "node_modules", "venv", ".venv", "env", "__pycache__", "dist", "build", "out",
   ".mypy_cache", ".pytest_cache", ".ruff_cache", ".tox", ".idea", ".vscode", "target"]

/-- How many levels below the root a recursive discovery looks. -/
def maxDepth : Nat := 4

/-- Whether a directory holds a marker. -/
def isProject (t : FileTree) (path : String) : Bool :=
  markers.any fun marker => t.exists? (Path.join path marker)

/-- The path at the end of names below a root. -/
def pathBelow (root : String) (names : List String) : String := names.foldl Path.join root

/-- The directories below a node down to a depth, with no excluded name on the way; links are
not followed. -/
def directories : Nat → Node → List (List String)
  | 0, _ => []
  | depth + 1, n =>
    (n.entries?.getD []).flatMap fun (name, child) =>
      if excluded.contains name || !child.isDir then []
      else [name] :: (directories depth child).map (name :: ·)

/-- The directories just below a root; a link to a directory counts as one. -/
def children (t : FileTree) (root : String) (n : Node) : List (List String) :=
  ((n.entries?.getD []).filter fun (name, _) =>
    t.isDir (Path.join root name) && !excluded.contains name).map fun (name, _) => [name]

/-- Whether a list of names comes before another, the first difference deciding and a list
coming before those that go on from it. -/
def precedes : List String → List String → Bool
  | [], _ => true
  | _ :: _, [] => false
  | a :: as, b :: bs => if a = b then precedes as bs else decide (a < b)

/-- A sorted list without neighbours that are equal. -/
def withoutRepeats : List (List String) → List (List String)
  | a :: b :: rest =>
    if a = b then withoutRepeats (b :: rest) else a :: withoutRepeats (b :: rest)
  | xs => xs

/-- The projects below a root by the names that lead to them, in order. -/
def below (t : FileTree) (root : String) (recursive : Bool) : List (List String) :=
  let found := match t.node? root with
    | some n => if recursive then directories maxDepth n else children t root n
    | none => []
  withoutRepeats
    ((found.filter fun names => isProject t (pathBelow root names)).mergeSort precedes)

/-- The projects to audit below a root, or the root itself. -/
def discover (t : FileTree) (root : String) (recursive : Bool) : List String :=
  match below t root recursive with
  | [] => [root]
  | found => found.map (pathBelow root)

end LintLedger.Project
