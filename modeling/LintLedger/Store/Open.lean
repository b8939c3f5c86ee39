import LintLedger.FileTree.Basic

/-!
# Opening databases

A database lives in a file, or for two special names in memory only.  Opening makes the
directories above the file and the file itself; an empty file is a database without tables,
and any other file that is no database is refused.

## Main Definitions

* `openStore` -- the tree after opening, and the store if it could be opened
* `saveStore` -- the tree with the store in its file
-/

namespace LintLedger

/-- The names of databases that have no file. -/
def hasNoFile (name : String) : Bool := name == ":memory:" || name == ""

/-- The tree with the directories above a path, as far as they could be made. -/
def makeParents (t : FileTree) (path : String) : FileTree :=
  match Path.parent? path with
  | none => t
  | some above => if above = "" then t else (t.makeDirs above).toOption.getD t

/-- Puts a store into the file of that name, meant from the directory `cwd`. -/
def saveStore (t : FileTree) (cwd name : String) (s : Store) : FileTree :=
  if hasNoFile name then t else (t.putContent (Path.join cwd name) (.ledger s)).toOption.getD t

/-- Opens the database of that name, meant from the directory `cwd`. -/
def openStore (t : FileTree) (cwd name : String) : FileTree × Option Store :=
  if hasNoFile name then (t, some .empty)
  else
    let path := Path.join cwd name
    let made := makeParents t path
    match made.content path with
    | .ok (.ledger s) => (made, some s)
    | .ok (.data []) => (saveStore made cwd name .empty, some .empty)
    | .ok _ => (made, none)
    | .error .missing =>
      match made.putContent path (.ledger .empty) with
      | .ok created => (created, some .empty)
      | .error _ => (made, none)
    | .error _ => (made, none)

end LintLedger
