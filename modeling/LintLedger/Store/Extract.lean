import LintLedger.Json.Writer
import LintLedger.Path.Folder
import LintLedger.Store.Basic

/-!
# Findings read back

Documents are made of the rows that carry a message, table by table, and within a table by
file and line.  An export is one document per root, in a folder named after the root.

## Main Definitions

* `Store.roots` -- the roots of all rows
* `Store.extract` -- the findings of a root, of a scan, or of both
* `exportFolders` -- the folders of an export
-/

namespace LintLedger

/-- A finding as it is exported. -/
structure ExportedFinding where
  tool : Tool
  message : String
  region : Region
  file : String
deriving DecidableEq, Repr

/-- The findings of a root, or of everything. -/
structure FindingsDocument where
  findings : List ExportedFinding
  root? : Option String

/-- A finding as a document. -/
def ExportedFinding.toJson (f : ExportedFinding) : Json :=
  .obj [
    ("tool", .str f.tool.name),
    ("message", .str f.message),
    ("start_line", Json.ofOption Json.ofInt f.region.line?),
    ("end_line", Json.ofOption Json.ofInt f.region.endLine?),
    ("start_col", Json.ofOption Json.ofInt f.region.column?),
    ("end_col", Json.ofOption Json.ofInt f.region.endColumn?),
    ("file_path", .str f.file)]

/-- The document as it is written. -/
def FindingsDocument.toJson (d : FindingsDocument) : Json :=
  .obj [
    ("name", .str "auditor"),
    ("findings", .arr (d.findings.map ExportedFinding.toJson)),
    ("root", Json.ofOption .str d.root?)]

namespace Row

/-- The cell of a row in one of the tool's own columns. -/
def cell? (r : Row) (column : String) : Option Cell :=
  (((Schema.ownColumns r.tool).zip r.own).find? fun p => p.1.name == column).map (·.2)

/-- The message of a row, empty if it has none. -/
def message (r : Row) : String :=
  match r.cell? "message" with
  | some (.text s) => s
  | _ => ""

/-- A row as it is exported. -/
def exported (r : Row) : ExportedFinding := ⟨r.tool, r.message, r.region, r.file⟩

/-- Whether a row may stand before another of its table: by file, then by line, and a row
without a line before those with one. -/
def precedes (a b : Row) : Bool :=
  if a.file = b.file then
    match a.region.line?, b.region.line? with
    | none, _ => true
    | some _, none => false
    | some x, some y => decide (x ≤ y)
  else decide (a.file < b.file)

end Row

namespace Store

/-- The error of looking at tables one after the other: the first that does not exist. -/
def missingOf? (s : Store) (tables : List Schema.Table) : Option StoreError :=
  (tables.find? fun table => !s.hasTable table.name).map fun table => .missingTable table.name

/-- Texts in ascending order without repetitions. -/
def ascending (xs : List String) : List String :=
  (Assoc.ofList (xs.map fun x => (x, ()))).keys

/-- The roots of all rows, in ascending order. -/
def roots (s : Store) : Except StoreError (List String) :=
  match s.missingOf? Schema.tables with
  | some e => .error e
  | none => .ok (ascending (s.rows.map (·.root)))

/-- Whether a row belongs to a root and to a scan, as far as they are given. -/
def selects (root? : Option String) (scan? : Option Int) (r : Row) : Bool :=
  root?.all (· == r.root) && scan?.all (· == r.owner)

/-- The findings of a root, of a scan, of both, or all of them. -/
def extract (s : Store) (root? : Option String) (scan? : Option Int) :
    Except StoreError FindingsDocument :=
  match s.missingOf? Schema.messageTables with
  | some e => .error e
  | none =>
    let findings := Schema.messageTables.flatMap fun table =>
      (((s.rowsOf table.tool).filter (selects root? scan?)).mergeSort Row.precedes).map
        Row.exported
    .ok ⟨findings, root?⟩

end Store

/-! ## Exports -/

/-- The file of a document in its folder. -/
def exportFile : String := "auditor-findings.json"

/-- The folders of the roots of an export, in order: the folder of a root by itself, or
numbered if earlier roots have the same one.  `earlier` holds the folders before. -/
def exportFoldersAfter (earlier : List String) : List String → List String
  | [] => []
  | root :: rest =>
    let folder := Path.exportFolder root
    let uses := earlier.count folder + 1
    (if uses = 1 then folder else folder ++ "-" ++ toString uses)
      :: exportFoldersAfter (folder :: earlier) rest

/-- The folders of the roots of an export. -/
def exportFolders (roots : List String) : List String := exportFoldersAfter [] roots

/-- The roots that an export writes: the one meant by a folder name, or all.  The error is the
name if it means none. -/
def exportRoots (roots : List String) : Option String → Except String (List String)
  | none => .ok roots
  | some folder =>
    match Path.matchRoot? roots folder with
    | some root => .ok [root]
    | none => .error folder

end LintLedger
