import LintLedger.FileTree.Basic
import LintLedger.Store.Extract

/-!
# Writing exports

An export writes one file per root below a directory.  It stops at the first file that cannot
be written; the files written before stay.

## Main Definitions

* `ExportError` -- why an export ends early
* `Store.export` -- the export of one root or of all
-/

namespace LintLedger

/-- Why an export ends early. -/
inductive ExportError where
  | store (e : StoreError)
  | noRoot (folder : String)
  | creating (dir : String) (cause : FileError)
  | writing (file : String) (cause : FileError)
deriving DecidableEq, Repr

namespace ExportError

/-- The message of an error, without its cause. -/
def message : ExportError → String
  | .store e => e.message
  | .noRoot folder => "no stored root matches \x60" ++ folder ++ "\x60"
  | .creating dir _ => "creating " ++ dir
  | .writing file _ => "writing " ++ file

/-- The message of an error with its cause, if it has one. -/
def fullMessage (e : ExportError) : String :=
  match e with
  | .creating _ cause => e.message ++ ": " ++ cause.message
  | .writing _ cause => e.message ++ ": " ++ cause.message
  | e => e.message

end ExportError

/-- A written file and the document in it. -/
structure Exported where
  path : String
  document : FindingsDocument

namespace Store

/-- Writes the document of one root into a folder; `outDir` is meant from the directory
`cwd`. -/
def exportRoot (s : Store) (cwd outDir root folder : String) (t : FileTree) :
    FileTree × Except ExportError Exported :=
  match s.extract (some root) none with
  | .error e => (t, .error (.store e))
  | .ok document =>
    let dir := Path.join outDir folder
    match t.makeDirs (Path.join cwd dir) with
    | .error e => (t, .error (.creating dir e))
    | .ok made =>
      let path := Path.join dir exportFile
      match made.writeText (Path.join cwd path) document.toJson.renderIndented with
      | .error e => (made, .error (.writing path e))
      | .ok written => (written, .ok ⟨path, document⟩)

/-- Writes the documents of roots into their folders, up to the first error. -/
def exportEach (s : Store) (cwd outDir : String) : List (String × String) → FileTree →
    FileTree × Except ExportError (List Exported)
  | [], t => (t, .ok [])
  | (root, folder) :: rest, t =>
    match s.exportRoot cwd outDir root folder t with
    | (t', .error e) => (t', .error e)
    | (t', .ok first) =>
      match s.exportEach cwd outDir rest t' with
      | (t'', .error e) => (t'', .error e)
      | (t'', .ok others) => (t'', .ok (first :: others))

/-- Writes the document of the root meant by a folder name, or those of all roots. -/
def exportTo (s : Store) (cwd outDir : String) (folder? : Option String) (t : FileTree) :
    FileTree × Except ExportError (List Exported) :=
  match s.roots with
  | .error e => (t, .error (.store e))
  | .ok roots =>
    match exportRoots roots folder? with
    | .error folder => (t, .error (.noRoot folder))
    | .ok chosen => s.exportEach cwd outDir (chosen.zip (exportFolders chosen)) t

end Store

end LintLedger
