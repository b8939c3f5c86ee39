import LintLedger.Identity
import LintLedger.Json.Reading
import LintLedger.Schema.Tables
import LintLedger.Settings

/-!
# The store of scans and findings

A scan is one run of one tool; a row is a finding that some scan was the first to report.  The
identity of a finding is a key of its table, so that scanning again adds a scan and no row.
Rows belong to the scan that brought them and go with it.

A cell is what one column of one row holds.  A reported value that does not fit its column is
stored as nothing, never as an error, so that an odd report loses one cell and not the row.

Writing a scan is one transaction: an error in the middle leaves the store as it was.

## Main Definitions

* `Cell`, `Cell.ofJson` -- the stored values, and a reported value in a column of some kind
* `Scan`, `Row`, `Store` -- what is stored
* `StoreError` -- why an operation fails
* `Store.persist` -- write a scan with its findings
* `Store.deleteScan`, `Store.pruneBefore` -- remove scans with their rows
* `Store.countRows`, `Store.pks`, `Store.dump` -- look at tables

## Design Notes

Identifiers of scans are never given twice, not even after a scan is removed, so the greatest
one ever given is part of the store.  The two insert modes are written down separately: `bulk`
skips rows whose key is taken, `perRow` notices the conflict of one row and goes on.
-/

namespace LintLedger

/-- The value of one column of one row. -/
inductive Cell where
  | null
  | integer (i : Int)
  | real (x : Float)
  | text (s : String)

namespace Cell

/-- A float in a cell: not-a-number is stored as nothing, and zero has no sign. -/
def ofFloat (x : Float) : Cell :=
  if x.isNaN then .null else if x == 0.0 then .real 0.0 else .real x

/-- An optional value in a cell. -/
def ofOption {α : Type} (f : α → Cell) : Option α → Cell
  | none => .null
  | some a => f a

/-- A value in an integer column. -/
def ofInteger : Json → Cell
  | .bool b => .integer (if b then 1 else 0)
  | .num n => .integer n.toInt64
  | .str s => ofOption .integer (Json.asInt? (some (.str s)))
  | _ => .null

/-- A value in a column of truth values; text is not read as one. -/
def ofBool : Json → Cell
  | .bool b => .integer (if b then 1 else 0)
  | .num n => .integer n.toInt64
  | _ => .null

/-- A value in a column of floats. -/
def ofReal (v : Json) : Cell := ofOption ofFloat (Json.asFloat? (some v))

/-- A value in a text column: a string as it is, anything else as compact JSON. -/
def ofText : Json → Cell
  | .str s => .text s
  | v => .text v.render

/-- A value in a column of the given kind; null is nothing everywhere. -/
def ofJson (kind : Schema.ColumnKind) : Json → Cell
  | .null => .null
  | v =>
    match kind with
    | .text => ofText v
    | .integer => ofInteger v
    | .bool => ofBool v
    | .real => ofReal v
    | .json => .text v.render

end Cell

/-! ## The store -/

/-- A stored scan. -/
structure Scan where
  id : Int
  timestamp : String
  tool? : Option String
  target? : Option String
deriving DecidableEq, Repr

/-- What is known of a scan before it is stored. -/
structure ScanInfo where
  timestamp : String
  tool? : Option String
  target? : Option String
deriving DecidableEq, Repr

/-- A stored finding. -/
structure Row where
  /-- The tool whose table holds the row. -/
  tool : Tool
  pk : String
  /-- The scan that brought the row. -/
  owner : Int
  file : String
  root : String
  region : Region
  /-- The cells of the tool's own columns, in their order. -/
  own : List Cell

/-- Scans and findings. -/
structure Store where
  /-- The names of the tables that exist. -/
  tableNames : List String
  /-- The greatest identifier of a scan ever given. -/
  lastId : Int
  scans : List Scan
  /-- The rows of all tables, oldest first. -/
  rows : List Row

/-- Why an operation on a store fails. -/
inductive StoreError where
  /-- A table was never created. -/
  | missingTable (name : String)
  /-- A finding names a table that no tool has. -/
  | unknownTable (name : String)
deriving DecidableEq, Repr

/-- The message of an error. -/
def StoreError.message : StoreError → String
  | .missingTable name => "sqlite: no such table: " ++ name
  | .unknownTable name => "unknown findings table \x60" ++ name ++ "\x60"

namespace Row

/-- The row that a finding becomes. -/
def ofFinding (table : Schema.Table) (owner : Int) (pk : String) (f : Finding) : Row where
  tool := table.tool
  pk := pk
  owner := owner
  file := f.file
  root := f.root
  region := f.region
  own := table.own.map fun c => Cell.ofOption (Cell.ofJson c.kind) (f.column? c.name)

/-- The cells of a row in the order of all columns. -/
def cells (r : Row) : List Cell :=
  [.text r.pk, .integer r.owner, .text r.file, .text r.root,
   .ofOption .integer r.region.line?, .ofOption .integer r.region.endLine?,
   .ofOption .integer r.region.column?, .ofOption .integer r.region.endColumn?] ++ r.own

/-- Whether two rows have the same key in the same table. -/
def clashes (a b : Row) : Bool := a.tool == b.tool && a.pk == b.pk

end Row

namespace Store

/-- The table of the scans. -/
def scansTable : String := "scan_metadata"

/-- The names of all tables of the schema. -/
def schemaNames : List String := scansTable :: Schema.tables.map (·.name)

/-- A store without tables. -/
def empty : Store := ⟨[], 0, [], []⟩

/-- Creates the tables that do not exist. -/
def seed (s : Store) : Store :=
  { s with tableNames := s.tableNames ++ schemaNames.filter (!s.tableNames.contains ·) }

/-- Whether a table exists. -/
def hasTable (s : Store) (name : String) : Bool := s.tableNames.contains name

/-- The findings table of the given name, if there is one by that name and it exists. -/
def requireTable (s : Store) (name : String) : Except StoreError Schema.Table :=
  match Schema.table? name with
  | none => .error (.unknownTable name)
  | some table => if s.hasTable name then .ok table else .error (.missingTable name)

/-- An operation that may fail, with the store as the operation left it. -/
abbrev Step (α : Type) := Store → Store × Except StoreError α

/-- Runs an operation as a whole: after an error the store is what it was before. -/
def transact {α : Type} (step : Step α) : Step α := fun s =>
  match step s with
  | (s', .ok a) => (s', .ok a)
  | (_, .error e) => (s, .error e)

/-! ## Writing rows -/

/-- Whether the key of a row is taken. -/
def taken (s : Store) (r : Row) : Bool := s.rows.any r.clashes

/-- Puts a row behind the others. -/
def append (s : Store) (r : Row) : Store := { s with rows := s.rows ++ [r] }

/-- One statement with many rows; rows whose key is taken are skipped.  The answer is the
number of rows that are new. -/
def insertMany : List Row → Store → Store × Nat
  | [], s => (s, 0)
  | r :: rest, s =>
    if s.taken r then insertMany rest s
    else
      let (s', n) := insertMany rest (s.append r)
      (s', n + 1)

/-- Pieces of at most `size` elements. -/
def chunks {α : Type} (size : Nat) (xs : List α) : List (List α) :=
  match xs with
  | [] => []
  | x :: rest => (x :: rest.take (size - 1)) :: chunks size (rest.drop (size - 1))
termination_by xs.length
decreasing_by simp only [List.length_drop, List.length_cons]; omega

/-- How many cells one statement may carry. -/
def cellLimit : Nat := 999

/-- Rows of a table with as many to a statement as its width allows. -/
def insertBulk (width : Nat) (rows : List Row) (s : Store) : Store × Nat :=
  (chunks (max 1 (cellLimit / width)) rows).foldl (fun (s, n) chunk =>
    let (s', m) := insertMany chunk s
    (s', n + m)) (s, 0)

/-- One row with one statement, refused if the key is taken. -/
def insertOne? (s : Store) (r : Row) : Option Store :=
  if s.taken r then none else some (s.append r)

/-- Rows one by one; a row that is refused is passed over. -/
def insertEach (rows : List Row) (s : Store) : Store × Nat :=
  rows.foldl (fun (s, n) r =>
    match s.insertOne? r with
    | some s' => (s', n + 1)
    | none => (s, n)) (s, 0)

/-- The rows of one table, in one of the two ways. -/
def insertRows (mode : InsertMode) (table : Schema.Table) (rows : List Row) (s : Store) :
    Store × Nat :=
  match mode with
  | .bulk => insertBulk table.allColumns.length rows s
  | .perRow => insertEach rows s

/-! ## Persisting a scan -/

/-- A finding with its identity. -/
structure Keyed where
  pk : String
  finding : Finding

/-- The findings with their identities, the first of each identity in each table. -/
def firstOfIdentity (findings : List Finding) : List Keyed :=
  ((findings.map fun f => (⟨f.pk, f⟩ : Keyed)).foldl (fun kept k =>
    if kept.any fun j => j.finding.table == k.finding.table && j.pk == k.pk then kept
    else k :: kept) []).reverse

/-- The findings by table, the tables in the order of their names. -/
def byTable (findings : List Keyed) : Assoc (List Keyed) :=
  findings.foldl (fun groups k =>
    groups.modify k.finding.table fun group => group.getD [] ++ [k]) []

/-- Writes the findings table by table; a table that no tool has, or that does not exist, ends
it. -/
def writeGroups (mode : InsertMode) (owner : Int) : Assoc (List Keyed) → Step Nat
  | [], s => (s, .ok 0)
  | (name, group) :: rest, s =>
    match s.requireTable name with
    | .error e => (s, .error e)
    | .ok table =>
      let rows := group.map fun k => Row.ofFinding table owner k.pk k.finding
      let (s', n) := insertRows mode table rows s
      match writeGroups mode owner rest s' with
      | (s'', .ok m) => (s'', .ok (n + m))
      | (s'', .error e) => (s'', .error e)

/-- Adds a scan under the next identifier. -/
def addScan (info : ScanInfo) : Step Int := fun s =>
  if s.hasTable scansTable then
    let id := s.lastId + 1
    ({ s with
        lastId := id
        scans := s.scans ++ [⟨id, info.timestamp, info.tool?, info.target?⟩] }, .ok id)
  else (s, .error (.missingTable scansTable))

/-- The steps of writing a scan, without the protection of a transaction. -/
def persistSteps (mode : InsertMode) (info : ScanInfo) (findings : List Finding) :
    Step (Int × Nat) := fun s =>
  match addScan info s with
  | (s', .error e) => (s', .error e)
  | (s', .ok id) =>
    match writeGroups mode id (byTable (firstOfIdentity findings)) s' with
    | (s'', .ok n) => (s'', .ok (id, n))
    | (s'', .error e) => (s'', .error e)

/-- Writes a scan and its findings.  The answer is the identifier of the scan and the number
of rows that are new. -/
def persist (mode : InsertMode) (info : ScanInfo) (findings : List Finding) : Step (Int × Nat) :=
  transact (persistSteps mode info findings)

/-! ## Removing scans -/

/-- Removes the scans that satisfy a condition, each with its rows.  The answer is the number
of scans removed. -/
def removeScans (gone : Scan → Bool) : Step Nat := fun s =>
  if s.hasTable scansTable then
    let ids := (s.scans.filter gone).map (·.id)
    ({ s with
        scans := s.scans.filter fun scan => !gone scan
        rows := s.rows.filter fun r => !ids.contains r.owner }, .ok ids.length)
  else (s, .error (.missingTable scansTable))

/-- Removes one scan with its rows. -/
def deleteScan (id : Int) : Step Nat := removeScans fun scan => scan.id == id

/-- Removes the scans whose timestamp is less than the given one as text. -/
def pruneBefore (timestamp : String) : Step Nat :=
  removeScans fun scan => decide (scan.timestamp < timestamp)

/-! ## Looking at tables -/

/-- The number of scans. -/
def countScans (s : Store) : Except StoreError Nat :=
  if s.hasTable scansTable then .ok s.scans.length else .error (.missingTable scansTable)

/-- The rows of a table, oldest first. -/
def rowsOf (s : Store) (t : Tool) : List Row := s.rows.filter (·.tool == t)

/-- The rows of a table by its name. -/
def tableRows (s : Store) (name : String) : Except StoreError (List Row) :=
  (s.requireTable name).map fun table => s.rowsOf table.tool

/-- The number of rows of a table. -/
def countRows (s : Store) (name : String) : Except StoreError Nat :=
  (s.tableRows name).map List.length

/-- The keys of a table in ascending order. -/
def pks (s : Store) (name : String) : Except StoreError (List String) :=
  (s.tableRows name).map fun rows => (rows.map (·.pk)).mergeSort fun a b => decide (a ≤ b)

/-- The rows of a table in ascending order of their keys. -/
def dump (s : Store) (name : String) : Except StoreError (List (List Cell)) :=
  (s.tableRows name).map fun rows =>
    (rows.mergeSort fun a b => decide (a.pk ≤ b.pk)).map Row.cells

end Store

end LintLedger
