import LintLedger.Proofs.FileTree.Content
import LintLedger.Proofs.Store.Stock
import LintLedger.Session.Basic
import Mathlib.Data.Multiset.ZeroCons

/-!
# The database of a session

What a session puts into its database the next one finds there: a store that was saved is the one
that is opened, whatever directories are made on the way.

## Main Definitions

* `findingsIn` -- the findings in a database, apart from the scans that brought them

## Main Statements

* `content_of_openStore`, `openStore_of_content` -- an open database holds its store, and a
  database that holds a store is opened
* `openDatabase_of_content` -- opening a database with all its tables changes no table
-/

namespace LintLedger

variable {t t' : FileTree} {cwd name : String} {s : Store}

/-- A store that is saved into a file is there. -/
theorem content_saveStore (hfile : hasNoFile name = false) {old : FileContent}
    (h : t.content (Path.join cwd name) = .ok old) (s : Store) :
    (saveStore t cwd name s).content (Path.join cwd name) = .ok (.ledger s) := by
  obtain ⟨t', hput⟩ := FileTree.exists_putContent h (.ledger s)
  rw [saveStore, hfile, hput]
  exact FileTree.content_of_putContent hput

/-- The directories above a file leave all files as they are. -/
theorem content_makeParents {path : String} {content : FileContent}
    (h : t.content path = .ok content) (below : String) :
    (makeParents t below).content path = .ok content := by
  unfold makeParents
  split
  · exact h
  · split
    · exact h
    · rename_i above _ _
      cases hmade : t.makeDirs above with
      | error e => exact h
      | ok t' => exact FileTree.content_of_makeDirs hmade h

/-- A database that holds a store is opened. -/
theorem openStore_of_content (hfile : hasNoFile name = false)
    (h : t.content (Path.join cwd name) = .ok (.ledger s)) :
    openStore t cwd name = (makeParents t (Path.join cwd name), some s) := by
  rw [openStore, hfile]
  simp only [Bool.false_eq_true, if_false, content_makeParents h]

/-- An open database holds its store. -/
theorem content_of_openStore (hfile : hasNoFile name = false)
    (h : openStore t cwd name = (t', some s)) :
    t'.content (Path.join cwd name) = .ok (.ledger s) := by
  rw [openStore, hfile] at h
  simp only [Bool.false_eq_true, if_false] at h
  split at h
  · rename_i hcontent
    cases h
    exact hcontent
  · rename_i hcontent
    cases h
    exact content_saveStore hfile hcontent _
  · cases h
  · split at h
    · rename_i hput
      cases h
      exact FileTree.content_of_putContent hput
    · cases h
  · cases h

/-- The findings in a database, apart from the scans that brought them. -/
def findingsIn (t : FileTree) (cwd name : String) : Option (Multiset Row) :=
  (openStore t cwd name).2.map fun s => ↑(s.rows.map Row.unowned)

theorem findingsIn_of_content (hfile : hasNoFile name = false)
    (h : t.content (Path.join cwd name) = .ok (.ledger s)) :
    findingsIn t cwd name = some ↑(s.rows.map Row.unowned) := by
  rw [findingsIn, openStore_of_content hfile h, Option.map_some]

/-- A database without a file holds nothing. -/
theorem findingsIn_of_hasNoFile (hfile : hasNoFile name = true) (t : FileTree) :
    findingsIn t cwd name = some 0 := by
  rw [findingsIn, openStore, if_pos hfile]
  rfl

variable {host : Host} {settings : Settings} {w w' : World}

/-- The path of the database of some settings. -/
def databaseFile (host : Host) (settings : Settings) : String :=
  Path.join host.surroundings.dir settings.database.path

/-- A database that can be opened is given all its tables. -/
theorem openDatabase_of_openStore
    (h : openStore w.tree host.surroundings.dir settings.database.path = (t, some s)) :
    openDatabase host settings w =
      ({ w with tree := saveStore t host.surroundings.dir settings.database.path s.seed },
        .ok s.seed) := by
  unfold openDatabase
  dsimp only
  rw [h]

/-- Opening a database has nothing to do with the number of the next process. -/
theorem openDatabase_nextProcess (n : Nat) :
    openDatabase host settings { w with nextProcess := n } =
      ({ (openDatabase host settings w).1 with nextProcess := n },
        (openDatabase host settings w).2) := by
  unfold openDatabase
  dsimp only
  split <;> rfl

/-- A database that was opened holds all its tables. -/
theorem content_of_openDatabase (hfile : hasNoFile settings.database.path = false)
    (h : openDatabase host settings w = (w', .ok s)) :
    s.Complete ∧ w'.tree.content (databaseFile host settings) = .ok (.ledger s) ∧
      ∃ opened found, openStore w.tree host.surroundings.dir settings.database.path =
        (opened, some found) ∧ s = found.seed ∧
        w'.tree = saveStore opened host.surroundings.dir settings.database.path s := by
  unfold openDatabase at h
  dsimp only at h
  split at h
  · cases h
  · rename_i opened found hopen
    cases h
    exact ⟨Store.complete_seed found,
      content_saveStore hfile (content_of_openStore hfile hopen) _, opened, found, hopen, rfl, rfl⟩

/-- A database that holds a store with all its tables is opened as it is. -/
theorem openDatabase_of_content (hfile : hasNoFile settings.database.path = false)
    (h : w.tree.content (databaseFile host settings) = .ok (.ledger s)) (hcomplete : s.Complete) :
    ∃ w', openDatabase host settings w = (w', .ok s) := by
  rw [openDatabase_of_openStore (openStore_of_content hfile h), hcomplete.seed_eq]
  exact ⟨_, rfl⟩

end LintLedger
