import LintLedger.Path.Basic

/-!
# Folder names derived from roots and projects

Exports and debug artifacts are written to folders named after stored roots and audited
projects, which are arbitrary text.

## Main Definitions

* `exportFolder` -- the folder of a root's export
* `projectSlug` -- the folder of a project's artifacts
* `matchRoot?` -- the stored root meant by a folder name
-/

namespace LintLedger.Path

/-- The last folder name of a root, or `root` if it has none. -/
def exportFolder (root : String) : String := (fileName? (trimSeparators root)).getD "root"

/-- Whether a character may stand in a slug. -/
def isSlugChar (c : Char) : Bool := c.isAlphanum || c == '-' || c == '_' || c == '.'

/-- Whether a character may not stand at either end of a slug. -/
def isSlugEdge (c : Char) : Bool := c == '-' || c == '.'

/-- The folder name of a project in ASCII letters, digits, `-`, `_` and `.`, without `-` and
`.` at its ends; `root` if nothing remains. -/
def projectSlug (project : String) : String :=
  let named := (anchorName project).toList.map fun c => if isSlugChar c then c else '-'
  let cut := Text.dropTail isSlugEdge (named.dropWhile isSlugEdge)
  if cut.isEmpty then "root" else String.ofList cut

/-- The nonempty segments of a path that may use either separator. -/
def folderSegments (p : String) : List String :=
  (Text.splitOnChar (fun c => c == '/' || c == '\\') p).filter (· ≠ "")

/-- The stored root meant by a folder name: one equal to it, separators at its end aside, else
the first whose segments end with the segments of the name. -/
def matchRoot? (roots : List String) (folder : String) : Option String :=
  let wanted := trimSeparators folder
  match roots.find? (· == wanted) with
  | some exact => some exact
  | none =>
    let parts := folderSegments wanted
    if parts.isEmpty then none
    else roots.find? fun root => parts.isSuffixOf (folderSegments root)

end LintLedger.Path
